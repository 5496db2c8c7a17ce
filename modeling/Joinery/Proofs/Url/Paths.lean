import Mathlib.Data.List.TakeWhile
import Joinery.Proofs.Url.Percent
import Joinery.Url.Resolution

/-!
# Paths that are read and written

A path is read into segments that are no steps, hold no separators and are encoded. Main
statement: such a path is read again as it was before it was written, so a slash can be put at
its end without any change to its segments, and a name takes the place behind that slash.
-/

namespace Joinery.Url

variable {url : Url} {segment : List Char} {path walked : List (List Char)}

/-- A text that can stand between two slashes of a path as it is. -/
structure IsSegment (segment : List Char) : Prop where
  plain : ∀ c ∈ segment, IsPlain pathReserved c
  no_slash : '/' ∉ segment
  no_backslash : '\\' ∉ segment
  no_dot : isDot segment = false
  no_dots : isDoubleDot segment = false

/-- A path with at least one segment, all of which can stand as they are. -/
structure IsPath (path : List (List Char)) : Prop where
  ne_nil : path ≠ []
  segments : ∀ segment ∈ path, IsSegment segment

theorem isSegment_nil : IsSegment [] := by
  refine ⟨by simp, by simp, by simp, by decide, by decide⟩

theorem follow_singleton (walked : List (List Char)) (segment : List Char) :
    follow walked [segment] =
      if isDoubleDot segment then stepUp walked ++ [[]]
      else if isDot segment then walked ++ [[]]
      else walked ++ [segment] := by
  rw [follow]

theorem mem_of_mem_stepUp (mem : segment ∈ stepUp walked) : segment ∈ walked := by
  rw [stepUp] at mem
  split at mem
  · exact mem
  · exact List.dropLast_subset _ mem

/-- Where segments are followed to there is some segment, be it an empty one. -/
theorem follow_ne_nil {segments : List (List Char)} (some_segment : segments ≠ []) :
    follow walked segments ≠ [] := by
  fun_induction follow walked segments with
  | case1 => exact absurd rfl some_segment
  | case2 => simp
  | case3 => simp
  | case4 => simp
  | case5 walked segment rest more _ ih => exact ih more
  | case6 walked segment rest more _ _ ih => exact ih more
  | case7 walked segment rest more _ _ ih => exact ih more

/-- A step to each segment: what is walked stays encoded and free of steps. -/
theorem isSegment_of_mem_follow {segments : List (List Char)}
    (before : ∀ segment ∈ walked, IsSegment segment)
    (encoded : ∀ segment ∈ segments, isDot segment = false → isDoubleDot segment = false →
      IsSegment segment) :
    ∀ segment ∈ follow walked segments, IsSegment segment := by
  have up : ∀ {walked : List (List Char)}, (∀ segment ∈ walked, IsSegment segment) →
      ∀ segment ∈ stepUp walked, IsSegment segment :=
    fun before segment mem => before segment (mem_of_mem_stepUp mem)
  have next : ∀ {walked : List (List Char)} {segment}, (∀ segment ∈ walked, IsSegment segment) →
      IsSegment segment → ∀ other ∈ walked ++ [segment], IsSegment other := by
    intro walked segment before last other mem
    exact (List.mem_append.mp mem).elim (before other)
      fun mem => List.mem_singleton.mp mem ▸ last
  fun_induction follow walked segments with
  | case1 walked => exact before
  | case2 walked last dots => exact next (up before) isSegment_nil
  | case3 walked last no_dots dot => exact next before isSegment_nil
  | case4 walked last no_dots no_dot =>
      exact next before (encoded last (by simp) (by simpa using no_dot) (by simpa using no_dots))
  | case5 walked segment rest more dots ih =>
      exact ih (up before) fun other mem => encoded other (List.mem_cons_of_mem _ mem)
  | case6 walked segment rest more no_dots dot ih =>
      exact ih before fun other mem => encoded other (List.mem_cons_of_mem _ mem)
  | case7 walked segment rest more no_dots no_dot ih =>
      have here := encoded segment (by simp) (by simpa using no_dot) (by simpa using no_dots)
      exact ih (next before here) fun other mem => encoded other (List.mem_cons_of_mem _ mem)

/-- Segments that are no steps are followed one after the other. -/
theorem follow_eq_append {segments : List (List Char)}
    (steady : ∀ segment ∈ segments, isDot segment = false ∧ isDoubleDot segment = false) :
    follow walked segments = walked ++ segments := by
  fun_induction follow walked segments with
  | case1 walked => rw [List.append_nil]
  | case2 walked last dots => simp [(steady last (by simp)).2] at dots
  | case3 walked last no_dots dot => simp [(steady last (by simp)).1] at dot
  | case4 => rfl
  | case5 walked segment rest more dots ih => simp [(steady segment (by simp)).2] at dots
  | case6 walked segment rest more no_dots dot ih => simp [(steady segment (by simp)).1] at dot
  | case7 walked segment rest more no_dots no_dot ih =>
      rw [ih fun other mem => steady other (List.mem_cons_of_mem _ mem), List.append_assoc]
      rfl

theorem splitPath_ne_nil (cs : List Char) : splitPath cs ≠ [] := List.splitOn_ne_nil _ _

/-- A piece of a text that is split holds characters of the text, but not the mark at which it
is split. -/
theorem mem_of_mem_splitOn {mark c : Char} {cs : List Char} (piece : segment ∈ cs.splitOn mark)
    (mem : c ∈ segment) : c ∈ cs ∧ c ≠ mark := by
  induction cs generalizing segment with
  | nil =>
      rw [List.splitOn_nil, List.mem_singleton] at piece
      subst piece
      cases mem
  | cons first rest ih =>
      rw [List.splitOn_cons_eq_if_modifyHead] at piece
      split at piece
      · apply (List.mem_cons.mp piece).elim
        · rintro rfl
          cases mem
        · intro later
          exact (ih later mem).imp_left (List.mem_cons_of_mem _)
      · rename_i differs
        obtain ⟨head, tail, pieces⟩ := List.exists_cons_of_ne_nil (List.splitOn_ne_nil mark rest)
        rw [pieces, List.modifyHead_cons] at piece
        apply (List.mem_cons.mp piece).elim
        · rintro rfl
          apply (List.mem_cons.mp mem).elim
          · rintro rfl
            exact ⟨List.mem_cons_self, by simpa using differs⟩
          · intro inside
            have listed : head ∈ rest.splitOn mark := pieces ▸ List.mem_cons_self
            exact (ih listed inside).imp_left (List.mem_cons_of_mem _)
        · intro later
          have listed : segment ∈ rest.splitOn mark := pieces ▸ List.mem_cons_of_mem _ later
          exact (ih listed mem).imp_left (List.mem_cons_of_mem _)

theorem ne_of_mem_splitPath {c : Char} {cs : List Char} (piece : segment ∈ splitPath cs)
    (mem : c ∈ segment) : c ≠ '/' ∧ c ≠ '\\' := by
  obtain ⟨listed, no_slash⟩ := mem_of_mem_splitOn piece mem
  refine ⟨no_slash, ?_⟩
  obtain ⟨source, -, rfl⟩ := List.mem_map.mp listed
  split
  · decide
  · assumption

/-- What a piece of a path is encoded to is a segment, if it is no step. -/
theorem isSegment_percentEncode {cs piece : List Char} (mem : piece ∈ splitPath cs)
    (no_dot : isDot (percentEncode pathReserved piece) = false)
    (no_dots : isDoubleDot (percentEncode pathReserved piece) = false) :
    IsSegment (percentEncode pathReserved piece) := by
  have digits : ∀ n < 16, IsPlain pathReserved (Text.hexDigitUpper n) ∧
      Text.hexDigitUpper n ≠ '/' ∧ Text.hexDigitUpper n ≠ '\\' := by decide
  have stands : ∀ c ∈ percentEncode pathReserved piece,
      IsPlain pathReserved c ∧ c ≠ '/' ∧ c ≠ '\\' := by
    intro c within
    rcases mem_percentEncode within with ⟨inside, plain⟩ | rfl | ⟨n, small, rfl⟩
    · exact ⟨plain, ne_of_mem_splitPath mem inside⟩
    · decide
    · exact digits n small
  exact ⟨fun c within => (stands c within).1, fun within => (stands _ within).2.1 rfl,
    fun within => (stands _ within).2.2 rfl, no_dot, no_dots⟩

/-- What is followed from a place in a path is a path. -/
theorem isPath_followPath (before : ∀ segment ∈ walked, IsSegment segment) (cs : List Char) :
    IsPath (followPath walked cs) := by
  refine ⟨follow_ne_nil (by simpa using splitPath_ne_nil cs), ?_⟩
  refine isSegment_of_mem_follow before fun segment mem => ?_
  obtain ⟨piece, listed, rfl⟩ := List.mem_map.mp mem
  exact isSegment_percentEncode listed

theorem isPath_readPath (cs : List Char) : IsPath (readPath cs) :=
  isPath_followPath (by simp) _

theorem pathChars_append (front back : List (List Char)) :
    pathChars (front ++ back) = pathChars front ++ pathChars back := List.flatMap_append

theorem pathChars_eq_intercalate (ne_nil : path ≠ []) :
    pathChars path = '/' :: ['/'].intercalate path := by
  induction path with
  | nil => exact absurd rfl ne_nil
  | cons first rest ih =>
      cases rest with
      | nil => simp [pathChars]
      | cons second more =>
          have later : pathChars (second :: more) = _ := ih (by simp)
          rw [List.intercalate_cons_cons, pathChars, List.flatMap_cons]
          rw [pathChars] at later
          rw [later]
          simp

namespace IsPath

theorem splitPath_intercalate (is_path : IsPath path) :
    splitPath (['/'].intercalate path) = path := by
  have slashes : (['/'].intercalate path).map (fun c => if c = '\\' then '/' else c) =
      ['/'].intercalate path := by
    refine (List.map_congr_left fun c mem => ?_).trans (List.map_id _)
    rw [if_neg, id]
    rintro rfl
    have written : '\\' ∈ pathChars path :=
      pathChars_eq_intercalate is_path.ne_nil ▸ List.mem_cons_of_mem _ mem
    obtain ⟨segment, listed, within⟩ := List.mem_flatMap.mp written
    rcases List.mem_cons.mp within with slash | within
    · exact absurd slash (by decide)
    · exact (is_path.segments segment listed).no_backslash within
  rw [splitPath, slashes]
  exact List.splitOn_intercalate '/' (fun segment mem => (is_path.segments segment mem).no_slash)
    is_path.ne_nil

/-- A path is read again as it was written. -/
theorem readPath_pathChars (is_path : IsPath path) : readPath (pathChars path) = path := by
  have encoded : path.map (percentEncode pathReserved) = path := by
    refine (List.map_congr_left fun segment mem => ?_).trans (List.map_id _)
    exact percentEncode_eq_self (is_path.segments segment mem).plain
  rw [readPath, pathChars_eq_intercalate is_path.ne_nil, if_pos (.inl rfl), List.tail_cons,
    followPath, is_path.splitPath_intercalate, encoded, follow_eq_append, List.nil_append]
  exact fun segment mem => ⟨(is_path.segments segment mem).no_dot,
    (is_path.segments segment mem).no_dots⟩

theorem append_nil (is_path : ∀ segment ∈ path, IsSegment segment) : IsPath (path ++ [[]]) := by
  refine ⟨by simp, fun segment mem => ?_⟩
  rcases List.mem_append.mp mem with mem | mem
  · exact is_path segment mem
  · exact List.mem_singleton.mp mem ▸ isSegment_nil

end IsPath

theorem IsPlain.isDropped {reserved : List Char} {c : Char} (plain : IsPlain reserved c) :
    isDropped c = false := by
  rw [Bool.eq_false_iff]
  intro dropped
  rw [Url.isDropped, Bool.or_eq_true, Bool.or_eq_true, decide_eq_true_eq, decide_eq_true_eq,
    decide_eq_true_eq] at dropped
  rcases dropped with (rfl | rfl) | rfl <;> exact absurd plain.1 (by decide)

/-- No character of a written path is dropped when it is read. -/
theorem filter_pathChars (is_path : ∀ segment ∈ path, IsSegment segment) :
    (pathChars path).filter (fun c => !isDropped c) = pathChars path := by
  refine List.filter_eq_self.mpr fun c mem => ?_
  obtain ⟨segment, listed, within⟩ := List.mem_flatMap.mp mem
  rcases List.mem_cons.mp within with rfl | within
  · rfl
  · rw [((is_path segment listed).plain c within).isDropped, Bool.not_false]

theorem exists_concat (some_segment : path ≠ []) : ∃ front last, path = front ++ [last] := by
  obtain none | ⟨front, last, concat⟩ := path.eq_nil_or_concat
  · exact absurd none some_segment
  · exact ⟨front, last, concat.trans (List.concat_eq_append ..)⟩

/-- A path ends in a slash just if its last segment is empty. -/
theorem getLast?_pathChars_iff (is_path : IsPath path) :
    (pathChars path).getLast? = some '/' ↔ path.getLast? = some [] := by
  obtain ⟨front, last, rfl⟩ := exists_concat is_path.ne_nil
  have no_slash := (is_path.segments last (by simp)).no_slash
  rw [pathChars_append, List.getLast?_concat]
  cases last with
  | nil => simp [pathChars]
  | cons c cs =>
      have written : pathChars front ++ pathChars [c :: cs] =
          (pathChars front ++ ['/']) ++ (c :: cs) := by simp [pathChars]
      have ends : (pathChars front ++ pathChars [c :: cs]).getLast? = (c :: cs).getLast? := by
        rw [written, List.getLast?_append, List.getLast?_cons, Option.some_or]
      rw [ends]
      exact iff_of_false (fun slash => no_slash (List.mem_of_getLast? slash)) (by simp)

/-- The segments of a path, but an empty one at its end. -/
def folder (path : List (List Char)) : List (List Char) :=
  if path.getLast? = some [] then path.dropLast else path

/-- The text of a path, with a slash at its end if there is none. -/
def closedChars (path : List (List Char)) : List Char :=
  pathChars path ++ if (pathChars path).getLast? = some '/' then [] else ['/']

theorem folder_append_nil (slashed : path.getLast? = some []) : folder path ++ [[]] = path := by
  have some_segment : path ≠ [] := by
    rintro rfl
    cases slashed
  obtain ⟨front, last, rfl⟩ := exists_concat some_segment
  rw [folder, if_pos slashed, List.dropLast_concat]
  rw [List.getLast?_concat, Option.some.injEq] at slashed
  rw [slashed]

theorem eq_folder_or_eq_concat (path : List (List Char)) :
    path = folder path ∨ path = folder path ++ [[]] := by
  by_cases slashed : path.getLast? = some []
  · exact .inr (folder_append_nil slashed).symm
  · exact .inl (if_neg slashed).symm

theorem isSegment_of_mem_folder (is_path : IsPath path) :
    ∀ segment ∈ folder path, IsSegment segment := by
  intro segment mem
  refine is_path.segments segment ?_
  rcases eq_folder_or_eq_concat path with same | same
  · exact same ▸ mem
  · exact same ▸ List.mem_append_left _ mem

theorem pathChars_folder_append (is_path : IsPath path) (segment : List Char) :
    pathChars (folder path ++ [segment]) = closedChars path ++ segment := by
  have slashed := getLast?_pathChars_iff is_path
  rw [closedChars, pathChars_append]
  by_cases last : path.getLast? = some []
  · have closed := congrArg pathChars (folder_append_nil last)
    rw [pathChars_append] at closed
    rw [if_pos (slashed.mpr last), ← closed]
    simp [pathChars]
  · rw [if_neg (mt slashed.mp last), folder, if_neg last]
    simp [pathChars]

/-- Paths with a slash at the end are told apart by their texts. -/
theorem closedChars_eq_iff {other : List (List Char)} (is_path : IsPath path)
    (is_path' : IsPath other) :
    closedChars path = closedChars other ↔ folder path = folder other := by
  have written := pathChars_folder_append is_path []
  have written' := pathChars_folder_append is_path' []
  rw [List.append_nil] at written written'
  constructor
  · intro same
    rw [same, ← written'] at written
    have read := congrArg readPath written
    rw [(IsPath.append_nil (isSegment_of_mem_folder is_path)).readPath_pathChars,
      (IsPath.append_nil (isSegment_of_mem_folder is_path')).readPath_pathChars] at read
    exact List.append_cancel_right read
  · intro same
    rw [← written, ← written', same]

/-- A slash at the end of a path puts an empty segment there, and changes no other. -/
theorem asDirectory_eq (is_path : IsPath url.path) :
    url.asDirectory = { url with path := folder url.path ++ [[]] } := by
  have slashed := getLast?_pathChars_iff is_path
  by_cases last : url.path.getLast? = some []
  · rw [asDirectory, if_pos (slashed.mpr last)]
    rw [folder_append_nil last]
  · have steady := IsPath.append_nil is_path.segments
    have written : pathChars url.path ++ ['/'] = pathChars (url.path ++ [[]]) := by
      simp [pathChars]
    rw [asDirectory, if_neg (mt slashed.mp last), setPath, written,
      filter_pathChars steady.segments, steady.readPath_pathChars, folder, if_neg last]

theorem splitAtFirst_of_notMem {mark : Char} {cs : List Char} (absent : mark ∉ cs) :
    splitAtFirst mark cs = (cs, none) := by
  have all : cs.dropWhile (· ≠ mark) = [] := by
    refine List.dropWhile_eq_nil_iff.mpr fun c mem => decide_eq_true ?_
    rintro rfl
    exact absent mem
  rw [splitAtFirst, all]

theorem IsPlain.not_isBlank {c : Char} (plain : IsPlain pathReserved c) : 0x20 < c.toNat := by
  obtain ⟨visible, unreserved⟩ := plain
  have no_space : c.toNat ≠ 0x20 := by
    intro space
    obtain rfl : c = ' ' := Char.toNat_inj.mp space
    exact unreserved (by decide)
  simp only [isControlOrBeyond, Bool.or_eq_false_iff, decide_eq_false_iff_not] at visible
  omega

theorem clean_of_isSegment (is_segment : IsSegment segment) : clean segment = segment := by
  have outer {cs : List Char} (stand : ∀ c ∈ cs, IsPlain pathReserved c) :
      cs.dropWhile (fun c => decide (c.toNat ≤ 0x20)) = cs := by
    refine List.dropWhile_eq_self_iff.mpr fun some_char blank => ?_
    have visible := (stand _ (List.getElem_mem some_char)).not_isBlank
    exact absurd (of_decide_eq_true blank) (not_le.mpr visible)
  have kept : ∀ c ∈ segment, (!isDropped c) = true := by
    intro c mem
    rw [(is_segment.plain c mem).isDropped, Bool.not_false]
  rw [clean, outer is_segment.plain, outer (by simpa using is_segment.plain),
    List.reverse_reverse, List.filter_eq_self.mpr kept]

/-- Nothing but a path is read in a segment. -/
theorem splitTail_of_isSegment (is_segment : IsSegment segment) :
    splitTail segment = (segment, none, none) := by
  have absent : ∀ mark ∈ pathReserved, mark ∉ segment :=
    fun mark reserved mem => (is_segment.plain mark mem).2 reserved
  simp only [splitTail, splitAtFirst_of_notMem (absent '#' (by decide)),
    splitAtFirst_of_notMem (absent '?' (by decide))]
  rfl

theorem splitPath_of_isSegment (is_segment : IsSegment segment) :
    splitPath segment = [segment] := by
  have is_path : IsPath [segment] := ⟨by simp, by simpa using is_segment⟩
  simpa using is_path.splitPath_intercalate

/-- A segment takes the place of the last one. -/
theorem join_of_isSegment (is_segment : IsSegment segment) :
    url.join segment =
      { url with path := url.path.dropLast ++ [segment], query := none, fragment := none } := by
  rw [join, clean_of_isSegment is_segment, splitTail_of_isSegment is_segment]
  simp only [followPath, splitPath_of_isSegment is_segment, List.map_singleton,
    percentEncode_eq_self is_segment.plain, follow_singleton, is_segment.no_dot,
    is_segment.no_dots]
  rfl

theorem secure_and_isPath_of_readWeb {secure : Bool} {usualPort : Nat} {cs : List Char}
    (read : readWeb secure usualPort cs = .ok url) : url.secure = secure ∧ IsPath url.path := by
  rw [readWeb] at read
  split at read
  · cases read
  split at read
  · cases read
  · obtain rfl := Except.ok.inj read
    exact ⟨rfl, isPath_readPath _⟩

theorem exists_of_map_eq_ok {α β ε : Type} {result : Except ε α} {f : α → β} {value : β}
    (mapped : result.map f = .ok value) : ∃ inner, result = .ok inner ∧ f inner = value := by
  cases result with
  | error fault => cases mapped
  | ok inner => exact ⟨inner, rfl, Except.ok.inj mapped⟩

/-- A web address has one of two schemes, and a path. -/
theorem web_of_parse {text : String} (parsed : parse text = .ok (.web url)) :
    (∃ scheme rest, readScheme (clean text.toList) = some (scheme, rest) ∧
      schemeKind scheme = .web url.secure) ∧ IsPath url.path := by
  rw [parse, Url.read] at parsed
  split at parsed
  · cases parsed
  rename_i scheme rest named
  split at parsed
  · rename_i secure kind
    obtain ⟨found, read, same⟩ := exists_of_map_eq_ok parsed
    obtain rfl := Reference.web.inj same
    obtain ⟨rfl, is_path⟩ := secure_and_isPath_of_readWeb read
    exact ⟨⟨scheme, rest, named, kind⟩, is_path⟩
  all_goals
    obtain ⟨found, -, other⟩ := exists_of_map_eq_ok parsed
    cases other

end Joinery.Url
