import StagedRuns.Proofs.Url.Clone
import StagedRuns.Proofs.Url.Escape

/-!
Texts that mean in a path what they spell. A text at the end of an address is cut where its path
ends, its gaps are left out, its segments of dots lead elsewhere, and what it escapes is decoded;
behind any segments it leads to what it spells exactly if nothing of that happens.
-/

namespace StagedRuns.Url

/-! ### Octets of texts -/

def octets (text : List Char) : List UInt8 :=
  Text.Utf8.encode (String.ofList text)

theorem octets_eq (text : List Char) : octets text = text.flatMap String.utf8EncodeChar :=
  Text.Utf8.encode_ofList text

theorem octets_append (text more : List Char) :
    octets (text ++ more) = octets text ++ octets more := by
  rw [octets_eq, octets_eq, octets_eq, List.flatMap_append]

theorem octets_cons (c : Char) (text : List Char) :
    octets (c :: text) = octets [c] ++ octets text :=
  octets_append [c] text

theorem octets_cons_of_ascii {c : Char} (ascii : c.toNat < 0x80) (text : List Char) :
    octets (c :: text) = UInt8.ofNat c.toNat :: octets text := by
  rw [octets_eq, List.flatMap_cons, Escape.utf8EncodeChar_of_ascii ascii, octets_eq]
  rfl

theorem octets_slash (text : List Char) : octets ('/' :: text) = 0x2F :: octets text :=
  octets_cons_of_ascii (by decide) text

theorem octets_injective {text other : List Char} (same : octets text = octets other) :
    text = other := by
  have pieces := congrArg Text.Utf8.pieces same
  rw [octets, octets, Text.Utf8.pieces_encode, Text.Utf8.pieces_encode] at pieces
  exact List.map_injective_iff.mpr (fun _ _ => Text.Utf8.Piece.char.inj) pieces

theorem length_octets_cons (c : Char) (text : List Char) :
    (octets text).length < (octets (c :: text)).length := by
  obtain ⟨head, tail, spelled, _⟩ := Text.Utf8.first_encodeChar c []
  rw [octets_eq (c :: text), List.flatMap_cons, spelled, ← octets_eq]
  simp only [List.cons_append, List.length_cons, List.length_append]
  omega

theorem length_octets_pos {text : List Char} (occupied : text ≠ []) :
    0 < (octets text).length := by
  obtain ⟨c, rest, rfl⟩ := List.exists_cons_of_ne_nil occupied
  exact Nat.zero_lt_of_lt (length_octets_cons c rest)

/-- A text of which something is left out has less octets. -/
theorem length_octets_of_sublist {text more : List Char} (part : text.Sublist more) :
    (octets text).length ≤ (octets more).length ∧
      ((octets text).length = (octets more).length → text = more) := by
  induction part with
  | slnil => exact ⟨Nat.le_refl _, fun _ => rfl⟩
  | cons c part ih =>
      have longer := length_octets_cons c
      refine ⟨Nat.le_trans ih.1 (Nat.le_of_lt (longer _)), fun same => ?_⟩
      exact absurd same (Nat.ne_of_lt (Nat.lt_of_le_of_lt ih.1 (longer _)))
  | @cons_cons text more c part ih =>
      rw [octets_cons c text, octets_cons c more, List.length_append, List.length_append]
      refine ⟨Nat.add_le_add_left ih.1 _, fun same => ?_⟩
      exact congrArg (c :: ·) (ih.2 (Nat.add_left_cancel same))

/-! ### Segments of a path -/

theorem mem_splitOnP {p : Char → Bool} {text part : List Char} (listed : part ∈ text.splitOnP p)
    {c : Char} (member : c ∈ part) : c ∈ text ∧ p c = false := by
  induction text generalizing part with
  | nil =>
      rw [List.splitOnP_nil, List.mem_singleton] at listed
      subst listed
      cases member
  | cons d rest ih =>
      rw [List.splitOnP_cons_eq_if_modifyHead] at listed
      split at listed
      · rcases List.mem_cons.mp listed with rfl | later
        · cases member
        · exact (ih later member).imp_left (List.mem_cons_of_mem d)
      · rename_i keeps
        obtain ⟨first, others, split⟩ := List.exists_cons_of_ne_nil (List.splitOnP_ne_nil p rest)
        rw [split, List.modifyHead_cons] at listed
        rcases List.mem_cons.mp listed with rfl | later
        · rcases List.mem_cons.mp member with rfl | inFirst
          · exact ⟨List.mem_cons_self, by simpa using keeps⟩
          · exact (ih (split ▸ List.mem_cons_self) inFirst).imp_left (List.mem_cons_of_mem d)
        · exact (ih (split ▸ List.mem_cons_of_mem first later) member).imp_left
            (List.mem_cons_of_mem d)

/-- The octets of segments, with a slash for each. -/
def width : List (List Char) → Nat
  | [] => 0
  | segment :: rest => 1 + (octets segment).length + width rest

theorem width_cons (segment : List Char) (rest : List (List Char)) :
    width (segment :: rest) = 1 + (octets segment).length + width rest :=
  rfl

theorem isSlash_cases {c : Char} (slash : isSlash true c = true) : c = '/' ∨ c = '\\' := by
  simpa [isSlash] using slash

theorem width_splitPath (text : List Char) :
    width (splitPath true text) = 1 + (octets text).length := by
  unfold splitPath
  induction text with
  | nil => rfl
  | cons c rest ih =>
      rw [List.splitOnP_cons_eq_if_modifyHead]
      split
      · rename_i slash
        have ascii : c.toNat < 0x80 := by
          rcases isSlash_cases slash with rfl | rfl <;> decide
        have none : (octets []).length = 0 := rfl
        rw [width_cons, ih, octets_cons_of_ascii ascii, List.length_cons, none]
        omega
      · obtain ⟨first, others, split⟩ :=
          List.exists_cons_of_ne_nil (List.splitOnP_ne_nil (isSlash true) rest)
        rw [split, width_cons] at ih
        rw [split, List.modifyHead_cons, width_cons, octets_cons c first, octets_cons c rest,
          List.length_append, List.length_append]
        omega

theorem decode_encoded (segment : List Char) :
    Escape.decode (octets (Escape.encode Escape.keptInPath segment)) =
      Escape.decode (octets segment) :=
  Escape.decode_encode_path segment

def decodedSegment (segment : List Char) : List UInt8 :=
  0x2F :: Escape.decode (octets segment)

/-- The octets of the segments of a path after decoding. -/
def decodedPath (segments : List (List Char)) : List UInt8 :=
  segments.flatMap decodedSegment

theorem decodedPath_cons (segment : List Char) (rest : List (List Char)) :
    decodedPath (segment :: rest) = decodedSegment segment ++ decodedPath rest :=
  List.flatMap_cons

theorem decode_slashed (segments : List (List Char)) :
    Escape.decode (octets (segments.flatMap ('/' :: ·))) = decodedPath segments := by
  induction segments with
  | nil => rfl
  | cons segment rest ih =>
      rw [List.flatMap_cons, List.cons_append, octets_slash,
        Escape.decode_cons_of_ne (by decide), octets_append]
      rw [decodedPath_cons, ← ih, decodedSegment, List.cons_append]
      congr 1
      cases rest with
      | nil =>
          have none : octets [] = [] := rfl
          rw [List.flatMap_nil, none, List.append_nil]
          exact (List.append_nil _).symm
      | cons next rest =>
          rw [List.flatMap_cons, List.cons_append, octets_slash, Escape.decode_slash,
            Escape.decode_cons_of_ne (by decide)]

/-- A segment that is read as what it spells. -/
structure IsLiteral (segment : List Char) : Prop where
  escapes : Escape.decode (octets segment) = octets segment
  notHere : segment ≠ ['.']
  notAbove : segment ≠ ['.', '.']

instance (segment : List Char) : Decidable (IsLiteral segment) :=
  decidable_of_iff (Escape.decode (octets segment) = octets segment ∧ segment ≠ ['.'] ∧
      segment ≠ ['.', '.'])
    ⟨fun ⟨escapes, notHere, notAbove⟩ => ⟨escapes, notHere, notAbove⟩,
      fun literal => ⟨literal.escapes, literal.notHere, literal.notAbove⟩⟩

theorem kept_of_other (before : List (List Char)) (segment : List Char) :
    kept false before segment = [Escape.encode Escape.keptInPath (withoutGaps segment)] := by
  simp only [kept, Bool.false_and, Bool.false_eq_true, if_false]

theorem length_shorten (before : List (List Char)) :
    (decodedPath (shorten before)).length ≤ (decodedPath before).length := by
  cases before with
  | nil => exact Nat.le_refl _
  | cons last before =>
      rw [shorten]
      split
      · exact Nat.le_refl _
      · rw [decodedPath_cons, List.length_append]
        exact Nat.le_add_left _ _

theorem length_decodedSegment_le (segment : List Char) :
    (decodedSegment (Escape.encode Escape.keptInPath segment)).length ≤
        1 + (octets segment).length ∧
      ((decodedSegment (Escape.encode Escape.keptInPath segment)).length =
        1 + (octets segment).length → Escape.decode (octets segment) = octets segment) := by
  rw [decodedSegment, decode_encoded, List.length_cons]
  rcases Escape.decode_eq_or_shorter (octets segment) with same | shorter
  · rw [same]
    exact ⟨by omega, fun _ => rfl⟩
  · exact ⟨by omega, fun equal => by omega⟩

/-- A segment of dots leaves at most a slash, which is less than the dots are. -/
theorem length_of_dots {segment : List Char} {before next rest : List (List Char)}
    (occupied : segment ≠ [])
    (noLonger : (decodedPath next).length ≤ (decodedPath before).length)
    (bound :
      (decodedPath (addSegments false (if rest.isEmpty then [] :: next else next) rest)).length ≤
        (decodedPath (if rest.isEmpty then [] :: next else next)).length + width rest) :
    (decodedPath (addSegments false (if rest.isEmpty then [] :: next else next) rest)).length <
      (decodedPath before).length + width (segment :: rest) := by
  have positive := length_octets_pos occupied
  have slash : (decodedPath ([] :: next)).length = 1 + (decodedPath next).length := by
    rw [decodedPath_cons, List.length_append]
    rfl
  rw [width_cons]
  split at bound <;> rename_i last
  · rw [if_pos last]
    omega
  · rw [if_neg last]
    omega

/-- Segments make a path no longer than they are, and shorter if one of them is not literal. -/
theorem length_addSegments {segments : List (List Char)}
    (dense : ∀ segment ∈ segments, withoutGaps segment = segment) (before : List (List Char)) :
    (decodedPath (addSegments false before segments)).length ≤
        (decodedPath before).length + width segments ∧
      ((decodedPath (addSegments false before segments)).length =
          (decodedPath before).length + width segments →
        ∀ segment ∈ segments, IsLiteral segment) := by
  induction segments generalizing before with
  | nil => exact ⟨Nat.le_refl _, fun _ _ listed => absurd listed List.not_mem_nil⟩
  | cons segment rest ih =>
      have here := dense segment List.mem_cons_self
      have later := fun next listed => dense next (List.mem_cons_of_mem segment listed)
      rw [addSegments, here]
      split
      · rename_i double
        have occupied : segment ≠ [] := by
          rintro rfl
          exact absurd double (by decide)
        have shorter := length_of_dots occupied (length_shorten before) (ih later _).1
        exact ⟨Nat.le_of_lt shorter, fun same => absurd same (Nat.ne_of_lt shorter)⟩
      · rename_i notDouble
        split
        · rename_i single
          have occupied : segment ≠ [] := by
            rintro rfl
            exact absurd single (by decide)
          have shorter := length_of_dots occupied (Nat.le_refl (decodedPath before).length)
            (ih later _).1
          exact ⟨Nat.le_of_lt shorter, fun same => absurd same (Nat.ne_of_lt shorter)⟩
        · rename_i notSingle
          rw [kept_of_other, here, List.singleton_append]
          obtain ⟨bound, literal⟩ :=
            ih later (Escape.encode Escape.keptInPath segment :: before)
          obtain ⟨kept, escapes⟩ := length_decodedSegment_le segment
          rw [decodedPath_cons, List.length_append] at bound literal
          rw [width_cons]
          refine ⟨by omega, fun same next listed => ?_⟩
          rcases List.mem_cons.mp listed with rfl | inRest
          · refine ⟨escapes (by omega), ?_, ?_⟩
            · rintro rfl
              exact notSingle (by decide)
            · rintro rfl
              exact notDouble (by decide)
          · exact literal (by omega) next inRest

/-! ### Segments of dots -/

theorem eq_of_toLower_eq_e {c : Char} (lower : c.toLower = 'e') : c = 'e' ∨ c = 'E' := by
  rcases toLower_cases c with kept | ⟨_, raised⟩
  · exact Or.inl (kept.symm.trans lower)
  · rw [lower] at raised
    have capital : c.toNat = 'E'.toNat := Nat.add_right_cancel (m := 32) raised.symm
    exact Or.inr (Char.toNat_inj.mp capital)

/-- The texts that a text in which the only letter is `e` is the lower case of. -/
def spellings : List Char → List (List Char)
  | [] => [[]]
  | c :: rest =>
      (if c = 'e' then ['e', 'E'] else [c]).flatMap fun d => (spellings rest).map (d :: ·)

theorem mem_spellings {text lower : List Char} (same : text.map Char.toLower = lower)
    (only : (lower.all fun c => c = 'e' || !c.isLower) = true) : text ∈ spellings lower := by
  subst same
  induction text with
  | nil => exact List.mem_singleton_self _
  | cons c rest ih =>
      rw [List.map_cons, List.all_cons, Bool.and_eq_true] at only
      rw [List.map_cons, spellings, List.mem_flatMap]
      refine ⟨c, ?_, List.mem_map_of_mem (ih only.2)⟩
      split
      · rename_i letter
        rcases eq_of_toLower_eq_e letter with rfl | rfl <;> decide
      · rename_i other
        have noLetter : c.toLower.isLower = false := by
          simpa [other] using only.1
        exact List.mem_singleton.mpr (eq_of_toLower_eq rfl noLetter)

theorem not_literal_of_spellings : ∀ dots ∈ ["%2e", ".%2e", "%2e.", "%2e%2e"],
    (dots.toList.all fun c => c = 'e' || !c.isLower) = true ∧
      ∀ segment ∈ spellings dots.toList, Escape.decode (octets segment) ≠ octets segment := by
  decide

theorem dots_of_literal {segment : List Char} (literal : IsLiteral segment) :
    isDoubleDot segment = false ∧ isSingleDot segment = false := by
  have spelled {dots : String} (listed : dots ∈ ["%2e", ".%2e", "%2e.", "%2e%2e"])
      (same : segment.map Char.toLower = dots.toList) : False := by
    obtain ⟨only, decoded⟩ := not_literal_of_spellings dots listed
    exact decoded segment (mem_spellings same only) literal.escapes
  have plain {dots : List Char} (same : segment.map Char.toLower = dots)
      (noLetter : dots.all (!·.isLower) = true) : segment = dots := by
    refine eq_of_map_toLower_eq same fun c member => ?_
    simpa using List.all_eq_true.mp noLetter c member
  constructor
  · rw [Bool.eq_false_iff]
    intro double
    simp only [isDoubleDot, List.contains_cons, List.contains_nil, Bool.or_false, Bool.or_eq_true,
      beq_iff_eq, ← String.toList_inj, String.toList_ofList] at double
    rcases double with same | same | same | same
    · exact literal.notAbove (plain same (by decide))
    · exact spelled (by decide) same
    · exact spelled (by decide) same
    · exact spelled (by decide) same
  · rw [Bool.eq_false_iff]
    intro single
    simp only [isSingleDot, List.contains_cons, List.contains_nil, Bool.or_false, Bool.or_eq_true,
      beq_iff_eq, ← String.toList_inj, String.toList_ofList] at single
    rcases single with same | same
    · exact literal.notHere (plain same (by decide))
    · exact spelled (by decide) same

/-! ### Literal segments -/

theorem addSegments_literal {segments : List (List Char)}
    (dense : ∀ segment ∈ segments, withoutGaps segment = segment)
    (literal : ∀ segment ∈ segments, IsLiteral segment) (before : List (List Char)) :
    addSegments false before segments =
      (segments.map (Escape.encode Escape.keptInPath)).reverse ++ before := by
  induction segments generalizing before with
  | nil => rfl
  | cons segment rest ih =>
      rw [List.forall_mem_cons] at dense literal
      obtain ⟨notDouble, notSingle⟩ := dots_of_literal literal.1
      rw [addSegments, dense.1, notDouble, notSingle, if_neg Bool.false_ne_true,
        if_neg Bool.false_ne_true, kept_of_other, dense.1, ih dense.2 literal.2, List.map_cons,
        List.reverse_cons, List.append_assoc]

theorem decodedPath_append (segments more : List (List Char)) :
    decodedPath (segments ++ more) = decodedPath segments ++ decodedPath more :=
  List.flatMap_append

theorem length_decodedPath_reverse (segments : List (List Char)) :
    (decodedPath segments.reverse).length = (decodedPath segments).length :=
  (segments.reverse_perm.flatMap_right decodedSegment).length_eq

theorem slashed_eq_intercalate {segments : List (List Char)} (occupied : segments ≠ []) :
    segments.flatMap ('/' :: ·) = '/' :: ['/'].intercalate segments := by
  obtain ⟨segment, rest, rfl⟩ := List.exists_cons_of_ne_nil occupied
  induction rest generalizing segment with
  | nil => simp
  | cons next rest ih =>
      rw [List.flatMap_cons, ih next (List.cons_ne_nil _ _)]
      simp [List.intercalate]

theorem decodedPath_literal {segments : List (List Char)} (occupied : segments ≠ [])
    (literal : ∀ segment ∈ segments, IsLiteral segment) :
    decodedPath (segments.map (Escape.encode Escape.keptInPath)) =
      0x2F :: octets (['/'].intercalate segments) := by
  rw [← octets_slash, ← slashed_eq_intercalate occupied, octets_eq, List.flatMap_assoc, decodedPath,
    List.flatMap_map]
  refine List.flatMap_congr fun segment listed => ?_
  rw [← octets_eq, octets_slash, decodedSegment, decode_encoded, (literal segment listed).escapes]

/-! ### Texts that spell a path -/

/-- A text that means in a path what it spells. -/
structure IsVerbatim (text : List Char) : Prop where
  signs : ∀ c ∈ text, c ∉ ['?', '#', '\\', '\t', '\n', '\r']
  segments : ∀ segment ∈ text.splitOn '/', IsLiteral segment

instance (text : List Char) : Decidable (IsVerbatim text) :=
  decidable_of_iff ((text.all fun c => c ∉ ['?', '#', '\\', '\t', '\n', '\r']) = true ∧
      ∀ segment ∈ text.splitOn '/', IsLiteral segment)
    ⟨fun ⟨signs, segments⟩ =>
        ⟨fun c member => of_decide_eq_true (List.all_eq_true.mp signs c member), segments⟩,
      fun verbatim =>
        ⟨List.all_eq_true.mpr fun c member => decide_eq_true (verbatim.signs c member),
          verbatim.segments⟩⟩

def trimmedEnd (text : List Char) : List Char :=
  (text.reverse.dropWhile isOuterBlank).reverse

/-- What counts of a text at the end of an address. -/
def settled (text : List Char) : List Char :=
  withoutGaps (trimmedEnd text)

def isTail (c : Char) : Bool :=
  c = '?' || c = '#'

def pathPart (text : List Char) : List Char :=
  (settled text).takeWhile (!isTail ·)

theorem trimmedEnd_sublist (text : List Char) : (trimmedEnd text).Sublist text := by
  have part := (List.dropWhile_sublist isOuterBlank (l := text.reverse)).reverse
  rwa [List.reverse_reverse] at part

theorem pathPart_sublist (text : List Char) : (pathPart text).Sublist (settled text) :=
  List.takeWhile_sublist _

theorem settled_sublist (text : List Char) : (settled text).Sublist (trimmedEnd text) :=
  List.filter_sublist

theorem trimmedEnd_eq_iff {text : List Char} :
    trimmedEnd text = text ↔ ∀ c ∈ text.getLast?, isOuterBlank c = false := by
  rw [trimmedEnd, ← List.head?_reverse, List.reverse_eq_iff, List.dropWhile_eq_self_iff]
  cases text.reverse <;> simp

theorem splitPath_of_no_backslash {text : List Char} (plain : '\\' ∉ text) :
    splitPath true text = text.splitOn '/' := by
  unfold splitPath List.splitOn
  induction text with
  | nil => rfl
  | cons c rest ih =>
      rw [List.mem_cons, not_or] at plain
      have same : isSlash true c = (c == '/') := by
        simp [isSlash, Ne.symm plain.1, Bool.beq_eq_decide_eq]
      rw [List.splitOnP_cons_eq_if_modifyHead, List.splitOnP_cons_eq_if_modifyHead, same,
        ih plain.2]

theorem no_gap_of_mem_settled {text : List Char} {c : Char} (member : c ∈ settled text) :
    isGap c = false := by
  simpa using (List.mem_filter.mp member).2

theorem no_tail_of_mem_pathPart {text : List Char} {c : Char} (member : c ∈ pathPart text) :
    isTail c = false := by
  simpa using List.mem_takeWhile_imp member

theorem dense_of_splitPath {text segment : List Char}
    (listed : segment ∈ splitPath true (pathPart text)) : withoutGaps segment = segment := by
  refine withoutGaps_of_no_gap fun c member => ?_
  exact no_gap_of_mem_settled ((pathPart_sublist text).mem (mem_splitOnP listed member).1)

theorem sign_cases {c : Char} :
    c ∉ ['?', '#', '\\', '\t', '\n', '\r'] ↔
      isTail c = false ∧ c ≠ '\\' ∧ isGap c = false := by
  simp [isTail, isGap, and_assoc]

theorem IsVerbatim.settled_eq {text : List Char} (verbatim : IsVerbatim text)
    (ends : ∀ c ∈ text.getLast?, isOuterBlank c = false) : settled text = text := by
  rw [settled, trimmedEnd_eq_iff.mpr ends]
  exact withoutGaps_of_no_gap fun c member => (sign_cases.mp (verbatim.signs c member)).2.2

theorem IsVerbatim.pathPart_eq {text : List Char} (verbatim : IsVerbatim text)
    (ends : ∀ c ∈ text.getLast?, isOuterBlank c = false) : pathPart text = text := by
  rw [pathPart, verbatim.settled_eq ends, List.takeWhile_eq_self_iff]
  intro c member
  rw [(sign_cases.mp (verbatim.signs c member)).1]
  rfl

theorem trimmedEnd_of_pathPart {text : List Char} (whole : pathPart text = text) :
    trimmedEnd text = text := by
  have part := (pathPart_sublist text).trans (settled_sublist text)
  rw [whole] at part
  exact (trimmedEnd_sublist text).antisymm part

theorem isVerbatim_of_splitPath {text : List Char} (whole : pathPart text = text)
    (written : ['/'].intercalate (splitPath true text) = text)
    (literal : ∀ segment ∈ splitPath true text, IsLiteral segment) : IsVerbatim text := by
  have plain : '\\' ∉ text := by
    intro member
    rw [← written] at member
    obtain ⟨segment, listed, inSegment⟩ := (Domain.mem_intercalate (by decide)).mp member
    exact absurd (mem_splitOnP listed inSegment).2 (by decide)
  refine ⟨fun c member => ?_, splitPath_of_no_backslash plain ▸ literal⟩
  have other : c ≠ '\\' := fun same => plain (same ▸ member)
  rw [← whole] at member
  exact sign_cases.mpr ⟨no_tail_of_mem_pathPart member, other,
    no_gap_of_mem_settled ((pathPart_sublist text).mem member)⟩

/-- Behind a place a text leads to what it spells exactly if it is verbatim. -/
theorem decodedPath_below_iff (stack : List (List Char)) (text : List Char) :
    decodedPath (addSegments false stack (splitPath true (pathPart text))).reverse =
        decodedPath stack.reverse ++ 0x2F :: octets text ↔
      IsVerbatim text ∧ ∀ c ∈ text.getLast?, isOuterBlank c = false := by
  have occupied : splitPath true (pathPart text) ≠ [] := List.splitOnP_ne_nil _ _
  have dense : ∀ segment ∈ splitPath true (pathPart text), withoutGaps segment = segment :=
    fun _ => dense_of_splitPath
  have spelled (literal : ∀ segment ∈ splitPath true (pathPart text), IsLiteral segment) :
      decodedPath (addSegments false stack (splitPath true (pathPart text))).reverse =
        decodedPath stack.reverse ++
          0x2F :: octets (['/'].intercalate (splitPath true (pathPart text))) := by
    rw [addSegments_literal dense literal, List.reverse_append, List.reverse_reverse,
      decodedPath_append, decodedPath_literal occupied literal]
  constructor
  · intro same
    obtain ⟨bound, literal⟩ := length_addSegments dense stack
    have part : (pathPart text).Sublist text :=
      (pathPart_sublist text).trans ((settled_sublist text).trans (trimmedEnd_sublist text))
    obtain ⟨shorter, whole⟩ := length_octets_of_sublist part
    have length := congrArg List.length same
    rw [length_decodedPath_reverse, List.length_append, length_decodedPath_reverse,
      List.length_cons] at length
    rw [width_splitPath] at bound literal
    have allRead : pathPart text = text := whole (by omega)
    have literal := literal (by rw [length, allRead]; omega)
    have written : ['/'].intercalate (splitPath true (pathPart text)) = text := by
      rw [spelled literal, List.append_cancel_left_eq, List.cons_inj_right] at same
      exact octets_injective same
    refine ⟨?_, trimmedEnd_eq_iff.mp (trimmedEnd_of_pathPart allRead)⟩
    rw [allRead] at written literal
    exact isVerbatim_of_splitPath allRead written literal
  · rintro ⟨verbatim, ends⟩
    have plain : '\\' ∉ text := fun member => verbatim.signs '\\' member (by simp)
    have split : splitPath true (pathPart text) = text.splitOn '/' := by
      rw [verbatim.pathPart_eq ends, splitPath_of_no_backslash plain]
    rw [spelled (split ▸ verbatim.segments), split, List.intercalate_splitOn]

theorem isVerbatim_slash {before after : List Char} :
    IsVerbatim (before ++ '/' :: after) ↔ IsVerbatim before ∧ IsVerbatim after := by
  have slash : '/' ∉ ['?', '#', '\\', '\t', '\n', '\r'] := by decide
  constructor
  · rintro ⟨signs, segments⟩
    rw [List.splitOn_append_cons_self, List.forall_mem_append] at segments
    rw [List.forall_mem_append, List.forall_mem_cons] at signs
    exact ⟨⟨signs.1, segments.1⟩, ⟨signs.2.2, segments.2⟩⟩
  · rintro ⟨first, second⟩
    refine ⟨List.forall_mem_append.mpr ⟨first.signs, List.forall_mem_cons.mpr ⟨slash, second.signs⟩⟩,
      ?_⟩
    rw [List.splitOn_append_cons_self]
    exact List.forall_mem_append.mpr ⟨first.segments, second.segments⟩

end StagedRuns.Url
