import Joinery.Proofs.Service.Endpoints
import Joinery.Proofs.Service.Requests

/-!
# Addresses of stored designs

A stored design is removed by a request to the address of the collection with its id as
one more segment. Main statement: that address is one of the design, and of no other, just
for the ids that are not a dot or a double dot and have neither tabs nor line ends. For a
dot and a double dot it is the collection itself, and where tabs and line ends are dropped,
it is the address of what is left of the id, which may be a step upwards.
-/

namespace Joinery

open Url

namespace Url

variable {url collection : Url} {segment text : List Char}

theorem push_of_dots (url : Url) (dots : text = ['.'] ∨ text = ['.', '.']) : url.push text = url :=
  if_pos dots

/-- What remains of a text once tabs and line ends are dropped. -/
def kept (text : List Char) : List Char := text.filter fun c => !isDropped c

/-- The URL with another path. -/
def withPath (url : Url) (path : List (List Char)) : Url := { url with path := path }

theorem originChars_withPath (url : Url) (path : List (List Char)) :
    (url.withPath path).originChars = url.originChars := rfl

theorem query_withPath (url : Url) (path : List (List Char)) :
    (url.withPath path).query = url.query := rfl

theorem fragment_withPath (url : Url) (path : List (List Char)) :
    (url.withPath path).fragment = url.fragment := rfl

/-- Any text but a dot or a double dot becomes a segment, or a step if that is what remains
of it. -/
theorem path_push_of_not_dots (no_dots : ¬(text = ['.'] ∨ text = ['.', '.']))
    (some_segment : url.path ≠ [[]]) :
    url.push text = url.withPath (
      if kept text = ['.', '.'] then stepUp url.path ++ [[]]
      else if kept text = ['.'] then url.path ++ [[]]
      else url.path ++ [percentEncode segmentReserved (kept text)]) := by
  have percent : '%' ∈ segmentReserved := by decide
  have dot : '.' ∉ segmentReserved := by decide
  simp only [push, if_neg no_dots, if_neg some_segment, follow_singleton, withPath, kept,
    isDoubleDot_percentEncode_iff percent dot, isDot_percentEncode_iff percent dot]
  rfl

/-- A URL is the address of a record in a collection: that of the collection, a slash, and
one segment, no step, that stands for the id. -/
def Addresses (url collection : Url) (id : String) : Prop :=
  ∃ segment, url.chars = collection.chars ++ '/' :: segment ∧
    (∀ mark ∈ ['/', '\\', '?', '#'], mark ∉ segment) ∧
    isDot segment = false ∧ isDoubleDot segment = false ∧
    percentDecode? segment = some id.toList

/-- An address of a record is no other record's. -/
theorem Addresses.eq_of_chars_eq {other : Url} {id id' : String}
    (first : url.Addresses collection id) (second : other.Addresses collection id')
    (same : url.chars = other.chars) : id = id' := by
  obtain ⟨segment, written, -, -, -, decoded⟩ := first
  obtain ⟨segment', written', -, -, -, decoded'⟩ := second
  rw [written, written'] at same
  obtain rfl := (List.cons.inj (List.append_cancel_left same)).2
  rw [decoded] at decoded'
  exact String.toList_inj.mp (Option.some.inj decoded')

/-- An address of a record is longer than that of the collection. -/
theorem Addresses.length_lt {id : String} (addresses : url.Addresses collection id) :
    collection.chars.length < url.chars.length := by
  obtain ⟨segment, written, -⟩ := addresses
  simp [written]

/-- A collection: its last segment has a name, which no step upwards keeps, and nothing
follows the path. -/
structure IsCollection (url : Url) : Prop where
  last : ∃ front name, url.path = front ++ [name] ∧ name ≠ [] ∧ isDrive name = false
  query : url.query = none
  fragment : url.fragment = none

namespace IsCollection

/-- The address of a collection is its origin and its path. -/
theorem chars_withPath (collects : url.IsCollection) (path : List (List Char)) :
    (url.withPath path).chars = url.originChars ++ pathChars path := by
  rw [chars, originChars_withPath, query_withPath, fragment_withPath, collects.query,
    collects.fragment, List.append_nil, List.append_nil]
  rfl

theorem chars_eq (collects : url.IsCollection) :
    url.chars = url.originChars ++ pathChars url.path :=
  collects.chars_withPath url.path

theorem path_ne (collects : url.IsCollection) : url.path ≠ [[]] := by
  obtain ⟨front, name, path, named, -⟩ := collects.last
  rw [path]
  intro root
  cases front with
  | nil => exact named (List.cons.inj root).1
  | cons first rest => simp at root

/-- A step upwards from a collection leads to a shorter address. -/
theorem length_up_lt (collects : url.IsCollection) :
    (url.withPath (stepUp url.path ++ [[]])).chars.length < url.chars.length := by
  obtain ⟨front, name, path, named, no_drive⟩ := collects.last
  have up : stepUp url.path = front := by simp [path, stepUp, no_drive]
  have some_char : 0 < name.length := List.length_pos_iff.mpr named
  rw [collects.chars_withPath, collects.chars_eq, up, path, pathChars_append, pathChars_append]
  simpa [pathChars] using some_char

/-- A further segment is written behind a collection and a slash. -/
theorem chars_append (collects : url.IsCollection) (segment : List Char) :
    (url.withPath (url.path ++ [segment])).chars = url.chars ++ '/' :: segment := by
  rw [collects.chars_withPath, collects.chars_eq, pathChars_append, ← List.append_assoc]
  simp [pathChars]

end IsCollection

variable {id : String}

/-- The address with one more segment is that of a record just for texts that become a
segment that stands for them. -/
theorem addresses_push_iff (collects : collection.IsCollection) (named : id ≠ "") :
    (collection.push id.toList).Addresses collection id ↔
      ¬(id.toList = ['.'] ∨ id.toList = ['.', '.']) ∧ kept id.toList = id.toList := by
  have percent : '%' ∈ segmentReserved := by decide
  have dot : '.' ∉ segmentReserved := by decide
  by_cases dots : id.toList = ['.'] ∨ id.toList = ['.', '.']
  · rw [push_of_dots collection dots]
    constructor
    · intro addresses
      exact absurd addresses.length_lt (Nat.lt_irrefl _)
    · exact fun plain => absurd dots plain.1
  rw [path_push_of_not_dots dots collects.path_ne, and_iff_right dots]
  rw [not_or] at dots
  split
  · rename_i up
    constructor
    · intro addresses
      exact absurd addresses.length_lt (Nat.lt_asymm collects.length_up_lt)
    · intro same
      exact absurd (same.symm.trans up) dots.2
  split
  · rename_i here
    constructor
    · rintro ⟨segment, written, -, -, -, decoded⟩
      rw [collects.chars_append] at written
      obtain rfl := (List.cons.inj (List.append_cancel_left written)).2
      have nothing : percentDecode? [] = some [] := percentDecode?_of_percentBytes rfl
      rw [nothing] at decoded
      exact absurd (String.toList_inj.mp (Option.some.inj decoded).symm) named
    · intro same
      exact absurd (same.symm.trans here) dots.1
  · rename_i no_up no_here
    have decoded := percentDecode?_percentEncode percent (kept id.toList)
    constructor
    · rintro ⟨segment, written, -, -, -, decoded'⟩
      rw [collects.chars_append] at written
      obtain rfl := (List.cons.inj (List.append_cancel_left written)).2
      exact Option.some.inj (decoded.symm.trans decoded')
    · intro same
      refine ⟨_, collects.chars_append _, ?_, ?_, ?_, decoded.trans (by rw [same])⟩
      · intro mark reserved
        simp only [List.mem_cons, List.not_mem_nil, or_false] at reserved
        rcases reserved with rfl | rfl | rfl | rfl <;>
          exact notMem_percentEncode (by decide) (by decide) (by decide) _
      · rwa [← Bool.not_eq_true, isDot_percentEncode_iff percent dot]
      · rwa [← Bool.not_eq_true, isDoubleDot_percentEncode_iff percent dot]

/-- Only a dot and a double dot leave the address as it is. -/
theorem chars_push_eq_iff (collects : collection.IsCollection) :
    (collection.push text).chars = collection.chars ↔ text = ['.'] ∨ text = ['.', '.'] := by
  by_cases dots : text = ['.'] ∨ text = ['.', '.']
  · simp [push_of_dots collection dots, dots]
  rw [path_push_of_not_dots dots collects.path_ne, iff_false_right dots]
  intro same
  have length := congrArg List.length same
  split at length
  · exact absurd length (Nat.ne_of_lt collects.length_up_lt)
  split at length
  · simp [collects.chars_append] at length
  · simp [collects.chars_append] at length

theorem kept_kept (text : List Char) : kept (kept text) = kept text := by
  simp [kept]

/-- What is dropped does not count, unless what remains is a dot or a double dot. -/
theorem push_kept (collects : collection.IsCollection)
    (no_dots : ¬(text = ['.'] ∨ text = ['.', '.']))
    (no_dots_kept : ¬(kept text = ['.'] ∨ kept text = ['.', '.'])) :
    collection.push text = collection.push (kept text) := by
  rw [path_push_of_not_dots no_dots collects.path_ne,
    path_push_of_not_dots no_dots_kept collects.path_ne, kept_kept]

theorem kept_eq_iff :
    kept text = text ↔ ∀ c ∈ text, c ≠ '\t' ∧ c ≠ '\n' ∧ c ≠ '\r' := by
  simp [kept, isDropped, and_assoc]

/-- The addresses that are accepted for the store lead to a collection. -/
theorem isCollection_of_endpoint {base : String}
    (accepted : endpoint base "configurations" = .ok url) : url.IsCollection := by
  obtain ⟨given, parsed⟩ := (exists_endpoint_iff base _).mp ⟨url, accepted⟩
  rw [endpoint_eq parsed (isSegment_of_used (by simp))] at accepted
  obtain rfl := Except.ok.inj accepted
  exact ⟨⟨folder given.path, _, rfl, by decide, by decide⟩, rfl, rfl⟩

end Url

/-- Where a removal is sent. An id is given, so one request or more go out to one address, and
to no other unless an answer sends the client on. It is the address of the record with that id
just for ids that become a segment that stands for them: those that are no dot or double dot and
have neither tabs nor line ends. It is the collection itself just for a dot and a double dot.
Tabs and line ends do not count, unless a dot or a double dot remains without them. The addresses
of records with different ids differ. -/
theorem removal_addresses_iff {access : RemoteAccess} {base id : String}
    (accepted : endpoint base "configurations" = .ok access.storeUrl) (named : id ≠ "") :
    (∀ client : Client, client.accepts (access.recordUrl id) = true →
      ∀ (server : Server) (history : History),
        let sent := ((access.services client server).delete id history).2
        (∃ rest, sent = history ++ ⟨.delete, access.recordUrl id, none⟩ :: rest) ∧
        (server.StaysPut → ∃ count, 1 ≤ count ∧
          sent = history ++ List.replicate count ⟨.delete, access.recordUrl id, none⟩)) ∧
    ((access.recordUrl id).Addresses access.storeUrl id ↔
      id ≠ "." ∧ id ≠ ".." ∧ ∀ c ∈ id.toList, c ≠ '\t' ∧ c ≠ '\n' ∧ c ≠ '\r') ∧
    ((access.recordUrl id).chars = access.storeUrl.chars ↔ id = "." ∨ id = "..") ∧
    (∀ other : String, other.toList = kept id.toList → id ≠ "." → id ≠ ".." → other ≠ "." →
      other ≠ ".." → access.recordUrl id = access.recordUrl other) ∧
    ∀ other, (access.recordUrl id).Addresses access.storeUrl id →
      (access.recordUrl other).Addresses access.storeUrl other →
      (access.recordUrl id).chars = (access.recordUrl other).chars → id = other := by
  have collects := isCollection_of_endpoint accepted
  have is_dot (text : String) : text.toList = ['.'] ↔ text = "." := @String.toList_inj text "."
  have is_dots (text : String) : text.toList = ['.', '.'] ↔ text = ".." :=
    @String.toList_inj text ".."
  refine ⟨fun client accepts server history => ?_, ?_, ?_,
    fun other remains dot dots dot' dots' => ?_, fun other => Addresses.eq_of_chars_eq⟩
  · intro sent
    obtain ⟨retries, -, course⟩ := access.course_delete server history named accepts
    have sent_eq : sent = _ := congrArg Prod.snd course
    rw [sent_eq]
    refine ⟨client.exists_sent_attempt .., fun stays => ⟨retries + 1, Nat.le_add_left .., ?_⟩⟩
    exact (client.attempt_of_staysPut stays retries).1
  · rw [RemoteAccess.recordUrl, addresses_push_iff collects named, kept_eq_iff, is_dot, is_dots,
      not_or, and_assoc]
  · rw [RemoteAccess.recordUrl, chars_push_eq_iff collects, is_dot, is_dots]
  · rw [RemoteAccess.recordUrl, RemoteAccess.recordUrl, remains]
    refine push_kept collects ?_ ?_
    · rw [is_dot, is_dots]
      exact not_or.mpr ⟨dot, dots⟩
    · rw [← remains, is_dot, is_dots]
      exact not_or.mpr ⟨dot', dots'⟩

theorem endpoint_localService : endpoint localService "configurations" = .ok localCollection := by
  rfl

/-- A slash in an id does not lead below the record. -/
theorem removal_addresses_iff_slash :
    let access := RemoteAccess.configured .standard .standard localCollection localCollection
    endpoint localService "configurations" = .ok access.storeUrl ∧
      (access.recordUrl "a/b").Addresses access.storeUrl "a/b" ∧
      (access.recordUrl "a/b").text = "http://localhost:8000/configurations/a%2Fb" := by
  intro access
  have accepted : endpoint localService "configurations" = .ok access.storeUrl :=
    endpoint_localService
  refine ⟨accepted, (removal_addresses_iff accepted (by decide)).2.1.mpr ?_, by rfl⟩
  refine ⟨by decide, by decide, ?_⟩
  change ∀ c ∈ ['a', '/', 'b'], c ≠ '\t' ∧ c ≠ '\n' ∧ c ≠ '\r'
  simp

/-- A removal of the design with a dot for an id is sent to the collection. -/
theorem not_all_removals_address :
    ¬∀ (base : String) (access : RemoteAccess) (id : String),
      endpoint base "configurations" = .ok access.storeUrl → id ≠ "" →
        (access.recordUrl id).Addresses access.storeUrl id := by
  intro all
  let access := RemoteAccess.configured .standard .standard localCollection localCollection
  have addresses := all localService access "." endpoint_localService (by decide)
  have same : access.recordUrl "." = access.storeUrl := push_of_dots _ (Or.inl rfl)
  rw [same] at addresses
  exact absurd addresses.length_lt (Nat.lt_irrefl _)

end Joinery
