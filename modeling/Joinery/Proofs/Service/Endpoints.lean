import Joinery.Proofs.Url.Paths
import Joinery.Service.Endpoint

/-!
# Addresses of operations

Each service has a base URL, to whose path the name of an operation is added. Main statement:
a base URL that can be read keeps all its segments as they are, and only a slash at its end
makes no difference; what is not a web address is refused.
-/

namespace Joinery

open Url

namespace Url

variable {url : Url} {base operation : String}

/-- Two URLs with the same scheme, credentials, host and port. -/
structure SameOrigin (url other : Url) : Prop where
  secure : url.secure = other.secure
  username : url.username = other.username
  password : url.password = other.password
  host : url.host = other.host
  port : url.port = other.port

/-- The URL of a name in a folder, under a base URL. -/
def inFolder (url : Url) (name : List Char) : Url :=
  { url with path := folder url.path ++ [name], query := none, fragment := none }

theorem sameOrigin_inFolder (url : Url) (name : List Char) : (url.inFolder name).SameOrigin url :=
  ⟨rfl, rfl, rfl, rfl, rfl⟩

/-- URLs of a name are told apart by their origins and their folders. -/
theorem inFolder_eq_iff {other : Url} {name : List Char} :
    url.inFolder name = other.inFolder name ↔
      url.SameOrigin other ∧ folder url.path = folder other.path := by
  constructor
  · intro same
    obtain ⟨secure, username, password, host, port, path, -⟩ := Url.mk.inj same
    exact ⟨⟨secure, username, password, host, port⟩, List.append_cancel_right path⟩
  · rintro ⟨⟨secure, username, password, host, port⟩, path⟩
    rw [inFolder, inFolder, path, secure, username, password, host, port]

/-- The name of an operation stands behind the segments of the base. -/
theorem endpoint_eq (parsed : parse base = .ok (.web url)) (name : IsSegment operation.toList) :
    endpoint base operation = .ok (url.inFolder operation.toList) := by
  have is_path := (web_of_parse parsed).2
  rw [endpoint, parsed]
  dsimp only
  rw [asDirectory_eq is_path, join_of_isSegment name]
  dsimp only
  rw [List.dropLast_concat, inFolder]

/-- The endpoints of two bases differ, unless these have the same origin and, but for a slash
at the end, the same path. -/
theorem endpoint_eq_endpoint_iff {other : String} {given : Url}
    (parsed : parse base = .ok (.web url)) (parsed' : parse other = .ok (.web given))
    (name : IsSegment operation.toList) :
    endpoint base operation = endpoint other operation ↔
      url.SameOrigin given ∧ closedChars url.path = closedChars given.path := by
  have is_path := (web_of_parse parsed).2
  have is_path' := (web_of_parse parsed').2
  rw [endpoint_eq parsed name, endpoint_eq parsed' name, Except.ok.injEq, inFolder_eq_iff,
    closedChars_eq_iff is_path is_path']

/-- The names of the operations are segments. -/
theorem isSegment_of_used (used : operation ∈ ["generate", "configurations"]) :
    IsSegment operation.toList := by
  simp only [List.mem_cons, List.not_mem_nil, or_false] at used
  have plain : operation.toList.all (fun c => decide (IsPlain pathReserved c)) = true := by
    rcases used with rfl | rfl <;> decide
  have stand (c : Char) (mem : c ∈ operation.toList) : IsPlain pathReserved c :=
    of_decide_eq_true (List.all_eq_true.mp plain c mem)
  rcases used with rfl | rfl <;>
    exact ⟨stand, by decide, by decide, by decide, by decide⟩

theorem eq_of_schemeKind_eq_web {scheme : List Char} {secure : Bool}
    (kind : schemeKind scheme = .web secure) :
    scheme = if secure then "https".toList else "http".toList := by
  have named (name : String) (same : String.ofList scheme = name) : scheme = name.toList := by
    rw [← same, String.toList_ofList]
  simp only [schemeKind] at kind
  split at kind
  · rename_i http
    obtain rfl := SchemeKind.web.inj kind
    exact named _ http
  split at kind
  · rename_i https
    obtain rfl := SchemeKind.web.inj kind
    exact named _ https
  · repeat' split at kind
    all_goals cases kind

/-- What is read as a web address names its scheme. -/
theorem readScheme_of_parse (parsed : parse base = .ok (.web url)) :
    ∃ rest, readScheme (clean base.toList) = some (url.schemeChars, rest) := by
  obtain ⟨⟨scheme, rest, named, kind⟩, -⟩ := web_of_parse parsed
  rw [eq_of_schemeKind_eq_web kind] at named
  exact ⟨rest, named⟩

end Url

variable {base operation : String}

/-- A text that is the address of a site on the web. -/
def IsWebAddress (base : String) : Prop := ∃ url, Url.parse base = .ok (.web url)

theorem exists_endpoint_iff (base operation : String) :
    (∃ url, endpoint base operation = .ok url) ↔ IsWebAddress base := by
  rw [endpoint, IsWebAddress]
  split <;> simp_all

/-- What is not the address of a site on the web is refused. -/
theorem invalidUrl_of_not_isWebAddress (odd : ¬IsWebAddress base) :
    ∃ detail, endpoint base operation = .error (.invalidUrl detail) := by
  rw [endpoint]
  split
  · exact ⟨_, rfl⟩
  · exact ⟨_, rfl⟩
  · rename_i url parsed
    exact absurd ⟨url, parsed⟩ odd

/-- Where requests for an operation go. The address has scheme, credentials, host and port of the
base URL; its path is that of the base, with a slash at the end if there is none, and then the
operation, and nothing follows it. All segments of the base stand there as they are, but an
empty one at the end. So two bases have the same address just if they have the same origin and
the same path but for that slash; in particular it makes no difference to a path that ends in
no slash whether one is added. What is no web address is refused as an odd URL, so is every text
of another scheme than `http` and `https`. -/
theorem endpoint_keeps_base (used : operation ∈ ["generate", "configurations"]) :
    (∀ base url, Url.parse base = .ok (.web url) →
      ∃ joined front, endpoint base operation = .ok joined ∧ joined.SameOrigin url ∧
        pathChars joined.path = closedChars url.path ++ operation.toList ∧
        joined.query = none ∧ joined.fragment = none ∧
        joined.path = front ++ [operation.toList] ∧
        (url.path = front ∨ url.path = front ++ [[]]) ∧
        ∃ rest, readScheme (clean base.toList) = some (joined.schemeChars, rest)) ∧
    (∀ base url other given, Url.parse base = .ok (.web url) →
      Url.parse other = .ok (.web given) →
        (endpoint base operation = endpoint other operation ↔
          url.SameOrigin given ∧ closedChars url.path = closedChars given.path)) ∧
    (∀ base url other given, Url.parse base = .ok (.web url) →
      Url.parse other = .ok (.web given) → url.SameOrigin given →
        (pathChars url.path).getLast? ≠ some '/' →
          pathChars given.path = pathChars url.path ++ ['/'] →
            endpoint base operation = endpoint other operation) ∧
    ∀ base, (∀ url, Url.parse base ≠ .ok (.web url)) ∨
        (∀ scheme rest, readScheme (clean base.toList) = some (scheme, rest) →
          scheme ≠ "http".toList ∧ scheme ≠ "https".toList) →
      ∃ detail, endpoint base operation = .error (.invalidUrl detail) := by
  have name := isSegment_of_used used
  refine ⟨fun base url parsed => ?_, fun base url other given parsed parsed' => ?_,
    fun base url other given parsed parsed' origin open_end slashed => ?_,
    fun base odd => invalidUrl_of_not_isWebAddress ?_⟩
  · have is_path := (web_of_parse parsed).2
    have named := readScheme_of_parse parsed
    exact ⟨url.inFolder operation.toList, folder url.path, endpoint_eq parsed name,
      sameOrigin_inFolder url _, pathChars_folder_append is_path _, rfl, rfl, rfl,
      eq_folder_or_eq_concat url.path, named⟩
  · exact endpoint_eq_endpoint_iff parsed parsed' name
  · refine (endpoint_eq_endpoint_iff parsed parsed' name).mpr ⟨origin, ?_⟩
    rw [closedChars, closedChars, slashed, if_neg open_end, List.getLast?_concat, if_pos rfl,
      List.append_nil]
  · rintro ⟨url, parsed⟩
    rcases odd with no_web | other_scheme
    · exact no_web url parsed
    · obtain ⟨rest, named⟩ := readScheme_of_parse parsed
      obtain ⟨no_http, no_https⟩ := other_scheme _ rest named
      rw [schemeChars] at no_http no_https
      split at no_http
      · exact no_https (if_pos ‹_›)
      · exact no_http rfl

/-- Credentials, port and escapes stay, an empty segment too; a query does not. -/
theorem endpoint_keeps_base_escapes :
    "generate" ∈ ["generate", "configurations"] ∧
      ∃ joined, endpoint "http://a:b@localhost:8000/v%201//x%2Fy?z" "generate" = .ok joined ∧
        joined.query = none ∧
        pathChars joined.path = "/v%201//x%2Fy/".toList ++ "generate".toList := by
  have used : "generate" ∈ ["generate", "configurations"] := by simp
  have parsed : Url.parse "http://a:b@localhost:8000/v%201//x%2Fy?z" =
      .ok (.web ⟨false, ['a'], ['b'], .domain "localhost".toList, some 8000,
        ["v%201".toList, [], "x%2Fy".toList], some ['z'], none⟩) := by rfl
  obtain ⟨joined, front, accepted, -, path, query, -⟩ :=
    (endpoint_keeps_base used).1 _ _ parsed
  exact ⟨used, joined, accepted, query, path⟩

end Joinery
