import Mathlib.Data.List.DropRight
import ManagementModel.Endpoint
import ManagementModel.Proofs.Url.Host
import ManagementModel.Proofs.Url.Path

/-!
# ManagementModel — paths that go on

More segments may be written behind a path. What was there is resolved as far as it goes (`opened`),
and the new segments are put behind the result. A slash at the end, or dots, leave an empty segment
only where nothing follows; so paths that end in slashes, and the same paths without them, go on in
the same way. The text of a path has its segments behind slashes.

Main results:

* `pathOf_append_slash` — segments that are written behind a path.
* `exists_pathOf_append_slashes` — slashes that are written behind a path.
* `length_opened_lt` — a last segment that becomes longer makes a longer path.
-/

namespace ManagementModel.Url

/-- The text of a path. -/
def Path.text : Path → String
  | .segments list => String.ofList (list.flatMap fun s => '/' :: s.toList)
  | .rest text => text

/-- The text of segments that stand in reverse order. -/
def reversedText (segments : List String) : List Char :=
  segments.reverse.flatMap fun s => '/' :: s.toList

/-! ## One more segment -/

/-- Puts a segment behind those of `acc`, where another one will follow. -/
def place (acc : List String) (s : List Char) : List String :=
  if isDoubleDot s then acc.drop 1 else if isSingleDot s then acc
  else encoded reservedInSegment s :: acc

/-- Segments in front of others are placed one by one. -/
theorem resolveOnto_append (acc : List String) (pieces : List (List Char)) {rest : List (List Char)}
    (hrest : rest ≠ []) :
    resolveOnto acc (pieces ++ rest) = resolveOnto (pieces.foldl place acc) rest := by
  induction pieces generalizing acc with
  | nil => rfl
  | cons s pieces ih =>
    -- another segment follows, so dots leave nothing behind
    have hmore : (pieces ++ rest).isEmpty = false := by simp [hrest]
    rw [List.cons_append, resolveOnto, hmore, List.foldl_cons, ih, place]
    cases isDoubleDot s <;> cases isSingleDot s <;> rfl

/-- A last segment of dots leaves an empty one. -/
theorem exists_resolveOnto (acc : List String) {pieces : List (List Char)} (h : pieces ≠ []) :
    ∃ j, resolveOnto acc pieces =
      (pieces.foldl place acc).reverse ++ List.replicate j "" := by
  obtain ⟨init, last, rfl⟩ : ∃ init last, pieces = init ++ [last] :=
    ⟨_, _, (List.dropLast_append_getLast h).symm⟩
  rw [resolveOnto_append acc init (List.cons_ne_nil _ _), List.foldl_append, List.foldl_cons,
    List.foldl_nil, resolveOnto, resolveOnto, place]
  cases isDoubleDot last with
  -- two dots or one leave an empty segment, and any other segment stays
  | true => exact ⟨1, by simp⟩
  | false =>
    cases isSingleDot last with
    | true => exact ⟨1, by simp⟩
    | false => exact ⟨0, by simp⟩

/-! ## Cutting a text that goes on -/

variable {kind : SchemeKind}

/-- There always is a segment, if only an empty one. -/
theorem splitSlashes_ne_nil (kind : SchemeKind) (s : List Char) : splitSlashes kind s ≠ [] := by
  cases s with
  | nil => exact List.cons_ne_nil _ _
  | cons c rest =>
    rw [splitSlashes]
    split
    · exact List.cons_ne_nil _ _
    · split <;> exact List.cons_ne_nil _ _

/-- A text without slashes is one segment. -/
theorem splitSlashes_of_no_slash {s : List Char} (h : ∀ c ∈ s, isSlash kind c = false) :
    splitSlashes kind s = [s] := by
  induction s with
  | nil => rfl
  | cons c s ih =>
    obtain ⟨hc, hs⟩ := List.forall_mem_cons.mp h
    rw [splitSlashes, hc, ih hs]
    rfl

/-- A text that goes on without a slash makes the last segment longer. -/
theorem exists_splitSlashes_append (kind : SchemeKind) (s : List Char) : ∃ init last, ∀ t,
    (∀ c ∈ t, isSlash kind c = false) → splitSlashes kind (s ++ t) = init ++ [last ++ t] := by
  induction s with
  | nil =>
    exact ⟨[], [], fun t ht => splitSlashes_of_no_slash ht⟩
  | cons c s ih =>
    obtain ⟨init, last, hsplit⟩ := ih
    cases hc : isSlash kind c with
    | true =>
      -- a slash begins a new segment
      refine ⟨[] :: init, last, fun t ht => ?_⟩
      rw [List.cons_append, splitSlashes, hc, hsplit t ht]
      rfl
    | false =>
      cases init with
      | nil =>
        -- there is one segment, which is the last one
        refine ⟨[], c :: last, fun t ht => ?_⟩
        rw [List.cons_append, splitSlashes, hc, hsplit t ht]
        rfl
      | cons first init =>
        refine ⟨(c :: first) :: init, last, fun t ht => ?_⟩
        rw [List.cons_append, splitSlashes, hc, hsplit t ht]
        rfl

/-- A slash ends one segment and begins another, whatever stands around it. -/
theorem splitSlashes_append_slash (s t : List Char) :
    splitSlashes kind (s ++ '/' :: t) = splitSlashes kind s ++ splitSlashes kind t := by
  induction s with
  | nil => rfl
  | cons c s ih =>
    rw [List.cons_append, splitSlashes, splitSlashes, ih]
    cases hc : isSlash kind c with
    | true => rfl
    | false =>
      cases hs : splitSlashes kind s with
      | nil => exact absurd hs (splitSlashes_ne_nil kind s)
      | cons first more => rfl

/-- Slashes alone are empty segments, one more than there are slashes. -/
@[simp] theorem splitSlashes_replicate (k : Nat) :
    splitSlashes kind (List.replicate k '/') = List.replicate (k + 1) [] := by
  induction k with
  | zero => rfl
  | succ k ih =>
    rw [List.replicate_succ, splitSlashes, ih]
    rfl

/-! ## Paths -/

/-- The segments of a path that goes on behind a slash, in reverse order. -/
def opened (kind : SchemeKind) : List Char → List String
  | [] => []
  | c :: rest => (splitSlashes kind (if isSlash kind c then rest else c :: rest)).foldl place []

/-- Segments that are written behind a path. -/
theorem pathOf_append_slash (tail rest : List Char) :
    pathOf kind (tail ++ '/' :: rest) =
      .segments (resolveOnto (opened kind tail) (splitSlashes kind rest)) := by
  cases tail with
  | nil => rfl
  | cons c tail =>
    have hsplit : splitSlashes kind (if isSlash kind c then tail ++ '/' :: rest
        else c :: (tail ++ '/' :: rest)) =
        splitSlashes kind (if isSlash kind c then tail else c :: tail) ++
          splitSlashes kind rest := by
      rw [← splitSlashes_append_slash]
      split <;> rfl
    rw [List.cons_append, pathOf, hsplit, resolveOnto_append _ _ (splitSlashes_ne_nil kind rest)]
    rfl

/-- Slashes that are written behind a path leave empty segments. -/
theorem exists_pathOf_append_slashes (hkind : kind ≠ .plain) (tail : List Char) (k : Nat) : ∃ j,
    pathOf kind (tail ++ List.replicate k '/') =
      .segments ((opened kind tail).reverse ++ List.replicate j "") := by
  cases k with
  | zero =>
    rw [List.replicate_zero, List.append_nil]
    cases tail with
    | nil => exact ⟨1, by rw [pathOf, if_neg hkind]; rfl⟩
    | cons c tail =>
      obtain ⟨j, hj⟩ := exists_resolveOnto [] (splitSlashes_ne_nil kind
        (if isSlash kind c then tail else c :: tail))
      exact ⟨j, by rw [pathOf, hj]; rfl⟩
  | succ k =>
    refine ⟨k + 1, ?_⟩
    -- empty segments are no dots
    have hplain : ∀ s ∈ List.replicate (k + 1) ([] : List Char), isDots s = false := by
      intro s hs
      rw [List.eq_of_mem_replicate hs]
      decide
    rw [List.replicate_succ, pathOf_append_slash, splitSlashes_replicate,
      resolveOnto_of_no_dots hplain, List.map_replicate]
    rfl

/-! ## Texts of paths -/

/-- The text of a path is that of its segments, the ones in reverse order in front. -/
theorem text_segments (segments : List String) (rest : List String) :
    (Path.segments (segments.reverse ++ rest)).text =
      String.ofList (reversedText segments ++ rest.flatMap fun s => '/' :: s.toList) := by
  rw [Path.text, List.flatMap_append, reversedText]

/-- Empty segments are slashes. -/
@[simp] theorem flatMap_replicate_empty (j : Nat) :
    (List.replicate j "").flatMap (fun s => '/' :: s.toList) = List.replicate j '/' := by
  induction j with
  | zero => rfl
  | succ j ih =>
    rw [List.replicate_succ, List.flatMap_cons, ih, List.replicate_succ]
    rfl

theorem withoutSlashes_ofList (s : List Char) :
    withoutSlashes (String.ofList s) = String.ofList (s.rdropWhile (· == '/')) := by
  rw [withoutSlashes, String.toList_ofList]
  rfl

/-- Slashes at the end are taken away, however many there are. -/
@[simp] theorem rdropWhile_append_slashes (s : List Char) (j : Nat) :
    (s ++ List.replicate j '/').rdropWhile (· == '/') = s.rdropWhile (· == '/') := by
  induction j with
  | zero => rw [List.replicate_zero, List.append_nil]
  | succ j ih =>
    rw [List.replicate_succ', ← List.append_assoc, List.rdropWhile_concat_pos _ _ _ (by decide), ih]

/-! ## Lengths -/

/-- The last segment of a path stands behind the last slash. -/
@[simp] theorem reversedText_cons (s : String) (segments : List String) :
    reversedText (s :: segments) = reversedText segments ++ '/' :: s.toList := by
  simp [reversedText]

/-- Blanks and controls make a segment one that stands for itself. -/
theorem not_dots_of_blank {s : List Char} {c : Char} (hc : c ∈ s) (hblank : c.toNat ≤ 0x20) :
    isDoubleDot s = false ∧ isSingleDot s = false := by
  have hlower : c.toLower.toNat ≤ 0x20 := by
    rw [toNat_toLower, if_neg (by omega)]
    exact hblank
  -- the words for dots consist of visible characters
  have hnot : ∀ words : List (List Char), (∀ word ∈ words, ∀ d ∈ word, 0x20 < d.toNat) →
      s.map Char.toLower ∉ words := by
    intro words hwords hmem
    have := hwords _ hmem _ (List.mem_map_of_mem hc)
    omega
  exact ⟨decide_eq_false (hnot _ (by simp)), decide_eq_false (hnot _ (by simp))⟩

/-- Encoding leaves something of every text but the empty one. -/
theorem length_encode_pos (reserved : Char → Bool) {s : List Char} (h : s ≠ []) :
    0 < (Text.Percent.encode reserved s).length := by
  obtain ⟨c, rest, rfl⟩ := List.exists_cons_of_ne_nil h
  have hc : Text.Percent.encode reserved [c] ≠ [] := by
    intro hnil
    -- an encoded text without a percent sign is the text itself
    have hnone : '%' ∉ Text.Percent.encode reserved [c] := by
      rw [hnil]
      exact List.not_mem_nil
    have hself := Text.Percent.encode_eq_self_of_notMem hnone
    rw [hnil] at hself
    cases hself
  have happend : Text.Percent.encode reserved (c :: rest) =
      Text.Percent.encode reserved [c] ++ Text.Percent.encode reserved rest := by
    rw [← List.singleton_append, Text.Percent.encode, List.flatMap_append]
    rfl
  rw [happend, List.length_append]
  have := List.length_pos_of_ne_nil hc
  omega

/-- A segment that a blank has come into makes the text of the path longer. -/
theorem length_place_lt (acc : List String) (s : List Char) {t : List Char} {c : Char} (hc : c ∈ t)
    (hblank : c.toNat ≤ 0x20) :
    (reversedText (place acc s)).length < (reversedText (place acc (s ++ t))).length := by
  obtain ⟨hdouble, hsingle⟩ := not_dots_of_blank (List.mem_append_right s hc) hblank
  have happend : Text.Percent.encode reservedInSegment (s ++ t) =
      Text.Percent.encode reservedInSegment s ++ Text.Percent.encode reservedInSegment t :=
    List.flatMap_append
  have hpos := length_encode_pos reservedInSegment (List.ne_nil_of_mem hc)
  -- with the blank the segment is encoded and put behind the others
  have hlonger : (reversedText (place acc (s ++ t))).length = (reversedText acc).length + 1 +
      (Text.Percent.encode reservedInSegment s).length +
        (Text.Percent.encode reservedInSegment t).length := by
    rw [place, if_neg (by simp [hdouble]), if_neg (by simp [hsingle]), reversedText_cons, encoded,
      String.toList_ofList, happend]
    simp only [List.length_append, List.length_cons]
    omega
  -- without it, dots may have taken a segment away
  have hdrop : (reversedText (acc.drop 1)).length ≤ (reversedText acc).length := by
    cases acc with
    | nil => exact Nat.le_refl _
    | cons u acc =>
      rw [reversedText_cons, List.drop_one, List.tail_cons, List.length_append]
      omega
  rw [hlonger, place]
  split
  · omega
  · split
    · omega
    · rw [reversedText_cons, encoded, String.toList_ofList, List.length_append, List.length_cons]
      omega

/-- Blanks that are written behind a path make its text longer. -/
theorem length_opened_lt (kind : SchemeKind) {tail blanks : List Char} (htail : tail ≠ [])
    (hne : blanks ≠ []) (hb : ∀ c ∈ blanks, c.toNat ≤ 0x20) :
    (reversedText (opened kind tail)).length <
      (reversedText (opened kind (tail ++ blanks))).length := by
  obtain ⟨c, rest, rfl⟩ := List.exists_cons_of_ne_nil htail
  obtain ⟨b, hmem⟩ := List.exists_mem_of_ne_nil blanks hne
  have hplain : ∀ b ∈ blanks, isSlash kind b = false := fun b hb' =>
    isSlash_of_blank (hb b hb') kind
  obtain ⟨init, last, hsplit⟩ :=
    exists_splitSlashes_append kind (if isSlash kind c then rest else c :: rest)
  -- only the last segment is another one
  have hopened : ∀ t, (∀ b ∈ t, isSlash kind b = false) →
      opened kind (c :: rest ++ t) = place (init.foldl place []) (last ++ t) := by
    intro t ht
    have hcut : (if isSlash kind c then rest ++ t else c :: (rest ++ t)) =
        (if isSlash kind c then rest else c :: rest) ++ t := by
      split <;> rfl
    rw [List.cons_append, opened, hcut, hsplit t ht, List.foldl_append, List.foldl_cons,
      List.foldl_nil]
  have hshort := hopened [] (List.forall_mem_nil _)
  rw [List.append_nil, List.append_nil] at hshort
  rw [hshort, hopened blanks hplain]
  exact length_place_lt _ last hmem (hb b hmem)

end ManagementModel.Url
