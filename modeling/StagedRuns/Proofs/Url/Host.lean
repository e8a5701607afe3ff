import Mathlib.Data.Bool.AllAny
import Mathlib.Data.List.SplitBy
import StagedRuns.Proofs.Text.Utf8
import StagedRuns.Url.Parse

/-!
What the host of a special scheme is never read from: a text with one of the characters that the
rest of a URL is cut at. Such a character has no part in percent-encoding, composition or Punycode,
so it comes through all of them and is refused in the end.
-/

namespace StagedRuns

namespace Url

/-- The characters that the URL of a special scheme is cut at, and those that do not count in it. -/
def delimiters : List Char := ['/', '\\', '?', '#', '@', ':', '\t', '\n', '\r']

variable {c : Char}

theorem delimiter_ascii : ∀ c ∈ delimiters, c.toNat < 0x80 :=
  List.all_iff_forall_prop.mp (by decide)

/-! ### Percent-encoding -/

theorem Escape.isPlain_of_isAlphanum (letterOrDigit : c.isAlphanum = true) :
    isPlain c = true := by
  unfold Char.isAlphanum Char.isAlpha Char.isUpper Char.isLower Char.isDigit at letterOrDigit
  unfold isPlain
  simp only [Bool.or_eq_true, Bool.and_eq_true, decide_eq_true_eq, ge_iff_le,
    UInt32.le_iff_toNat_le, Char.reduceVal, UInt32.reduceToNat] at letterOrDigit ⊢
  have same : c.val.toNat = c.toNat := rfl
  omega

theorem Escape.octet?_eq_none {mark high low byte : UInt8} (notMark : byte ≠ 0x25)
    (noDigit : hexValue? (Char.ofNat byte.toNat) = none)
    (part : byte = mark ∨ byte = high ∨ byte = low) : octet? mark high low = none := by
  unfold octet?
  rcases part with rfl | rfl | rfl
  · cases hexValue? (Char.ofNat high.toNat) <;> cases hexValue? (Char.ofNat low.toNat) <;>
      simp [notMark]
  · rw [noDigit]
    rfl
  · rw [noDigit]
    cases hexValue? (Char.ofNat high.toNat) <;> rfl

theorem Escape.mem_decode {bytes : List UInt8} {byte : UInt8} (notMark : byte ≠ 0x25)
    (noDigit : hexValue? (Char.ofNat byte.toNat) = none) (member : byte ∈ bytes) :
    byte ∈ decode bytes := by
  fun_induction decode bytes with
  | case1 mark high low rest octet decoded ih =>
      rcases List.mem_cons.mp member with atMark | member
      · rw [octet?_eq_none notMark noDigit (Or.inl atMark)] at decoded
        cases decoded
      · rcases List.mem_cons.mp member with atHigh | member
        · rw [octet?_eq_none notMark noDigit (Or.inr (Or.inl atHigh))] at decoded
          cases decoded
        · rcases List.mem_cons.mp member with atLow | inRest
          · rw [octet?_eq_none notMark noDigit (Or.inr (Or.inr atLow))] at decoded
            cases decoded
          · exact List.mem_cons_of_mem octet (ih inRest)
  | case2 mark high low rest _ ih =>
      rcases List.mem_cons.mp member with same | inTail
      · exact same ▸ List.mem_cons_self
      · exact List.mem_cons_of_mem mark (ih inTail)
  | case3 => exact member

/-! ### Composition -/

namespace Domain

/-- Whether a character can be in the table of what is composed: no delimiter is. -/
def composes (c : Char) : Bool :=
  0x61 ≤ c.toNat || c = '<' || c = '=' || c = '>'

theorem not_composes : ∀ c ∈ delimiters, composes c = false :=
  List.all_iff_forall_prop.mp (by decide)

theorem composes_cons {mark : Nat} {text : List Char} {rest : List (Nat × String)}
    (here : (composes (Char.ofNat mark) && text.all composes) = true)
    (others : ∀ entry ∈ rest, composes (Char.ofNat entry.1) ∧ entry.2.toList.all composes) :
    ∀ entry ∈ (mark, String.ofList text) :: rest,
      composes (Char.ofNat entry.1) ∧ entry.2.toList.all composes := by
  refine List.forall_mem_cons.mpr ⟨?_, others⟩
  rw [String.toList_ofList]
  exact Bool.and_eq_true_iff.mp here

theorem markedTable_composes : ∀ entry ∈ markedTable, composes (Char.ofNat entry.1) ∧
    entry.2.toList.all composes := by
  unfold markedTable
  repeat refine composes_cons (by decide +kernel) ?_
  exact List.forall_mem_nil _

theorem signTable_composes : ∀ entry ∈ signTable, composes (Char.ofNat entry.1) ∧
    composes (Char.ofNat entry.2.1) ∧ composes (Char.ofNat entry.2.2) :=
  List.all_iff_forall_prop.mp (by decide +kernel)

theorem withMark_composes {mark : Char} {text : List Char} {composite : Composite}
    (marked : composes mark) (listed : ∀ c ∈ text, composes c)
    (member : composite ∈ Composite.withMark mark text) :
    composes composite.first ∧ composes composite.second ∧ composes composite.whole := by
  fun_induction Composite.withMark mark text with
  | case1 first whole rest ih =>
      rcases List.mem_cons.mp member with rfl | inRest
      · exact ⟨listed first (by simp), marked, listed whole (by simp)⟩
      · exact ih (fun c present => listed c (by simp [present])) inRest
  | case2 => cases member

theorem composites_compose {composite : Composite} (member : composite ∈ composites) :
    composes composite.first ∧ composes composite.second ∧ composes composite.whole := by
  rcases List.mem_append.mp member with marked | signed
  · obtain ⟨⟨mark, text⟩, listed, member⟩ := List.mem_flatMap.mp marked
    obtain ⟨mark, all⟩ := markedTable_composes _ listed
    exact withMark_composes mark (List.all_eq_true.mp all) member
  · obtain ⟨entry, listed, rfl⟩ := List.mem_map.mp signed
    exact signTable_composes entry listed

theorem Hangul.isSyllable_ascii (ascii : c.toNat < 0x80) : isSyllable c = false := by
  have below : ¬ base ≤ c.toNat := by
    unfold base
    omega
  rw [isSyllable, decide_eq_false below, Bool.false_and]

theorem Hangul.join?_ascii {first second : Char}
    (ascii : first.toNat < 0x80 ∨ second.toNat < 0x80) : join? first second = none := by
  have notLeading : (leading ≤ first.toNat && first.toNat < leading + 19 &&
      vowel ≤ second.toNat && second.toNat < vowel + 21) = false := by
    rw [Bool.eq_false_iff]
    simp only [ne_eq, Bool.and_eq_true, decide_eq_true_eq]
    unfold leading vowel
    omega
  have notFinal : (isSyllable first && (first.toNat - base) % 28 = 0 &&
      final < second.toNat && second.toNat < final + 28) = false := by
    rcases ascii with firstAscii | secondAscii
    · rw [isSyllable_ascii firstAscii, Bool.false_and, Bool.false_and, Bool.false_and]
    · have below : ¬ final < second.toNat := by
        unfold final
        omega
      rw [decide_eq_false below, Bool.and_false, Bool.false_and]
  simp only [join?, notLeading, notFinal, Bool.false_eq_true, if_false]

theorem partsOf_delimiter (delimits : c ∈ delimiters) (depth : Nat) : partsOf depth c = [c] := by
  cases depth with
  | zero => rfl
  | succ depth =>
      have noSyllable : Hangul.parts? c = none := by
        unfold Hangul.parts?
        rw [Hangul.isSyllable_ascii (delimiter_ascii c delimits), if_neg Bool.false_ne_true]
      have noWhole : composites.find? (·.whole = c) = none := by
        refine List.find?_eq_none.mpr fun composite member same => ?_
        have composes := (composites_compose member).2.2
        rw [of_decide_eq_true same, not_composes c delimits] at composes
        cases composes
      unfold partsOf
      rw [noSyllable, noWhole]

theorem join?_delimiter {first second : Char}
    (delimits : first ∈ delimiters ∨ second ∈ delimiters) :
    join? first second = none := by
  have noSyllable : Hangul.join? first second = none :=
    Hangul.join?_ascii (delimits.imp (delimiter_ascii first) (delimiter_ascii second))
  have noComposite :
      composites.find? (fun composite => composite.first = first && composite.second = second) =
        none := by
    refine List.find?_eq_none.mpr fun composite member same => ?_
    obtain ⟨firstComposes, secondComposes, _⟩ := composites_compose member
    simp only [Bool.and_eq_true, decide_eq_true_eq] at same
    rcases delimits with delimits | delimits
    · rw [same.1, not_composes _ delimits] at firstComposes
      cases firstComposes
    · rw [same.2, not_composes _ delimits] at secondComposes
      cases secondComposes
  rw [join?, noSyllable, noComposite]
  rfl

theorem mem_ordered {text : List Char} : c ∈ ordered text ↔ c ∈ text := by
  unfold ordered
  constructor
  · intro member
    obtain ⟨group, listed, sorted⟩ := List.mem_flatMap.mp member
    rw [← List.flatten_splitBy (fun _ c => Text.combiningClass c ≠ 0) text]
    exact List.mem_flatten.mpr ⟨group, listed, List.mem_mergeSort.mp sorted⟩
  · intro member
    rw [← List.flatten_splitBy (fun _ c => Text.combiningClass c ≠ 0) text] at member
    obtain ⟨group, listed, present⟩ := List.mem_flatten.mp member
    exact List.mem_flatMap.mpr ⟨group, listed, List.mem_mergeSort.mpr present⟩

theorem mem_joined {base : Char} {marks rest : List Char} (delimits : c ∈ delimiters)
    (member : c ∈ base :: marks ++ rest) : c ∈ joined base marks rest := by
  fun_induction joined base marks rest with
  | case1 base marks => simpa using member
  | case2 base marks next rest reaches whole joins ih =>
      -- Neither of two characters that make one is a delimiter.
      have made : join? base next = some whole := by
        by_cases reached : reaches
        · rw [if_pos reached] at joins
          exact joins
        · rw [if_neg reached] at joins
          cases joins
      have notBase : c ≠ base := by
        rintro rfl
        rw [join?_delimiter (Or.inl delimits)] at made
        cases made
      have notNext : c ≠ next := by
        rintro rfl
        rw [join?_delimiter (Or.inr delimits)] at made
        cases made
      apply ih
      simp_all
  | case3 base marks next rest _ _ _ ih =>
      simp only [List.cons_append, List.mem_cons, List.mem_append, List.mem_reverse] at member ih ⊢
      rcases member with same | inMarks | behind
      · exact Or.inl same
      · exact Or.inr (Or.inl inMarks)
      · exact Or.inr (Or.inr (ih (by simpa using behind)))
  | case4 base marks next rest _ _ _ ih =>
      apply ih
      simp only [List.cons_append, List.mem_cons, List.mem_append] at member ⊢
      tauto

theorem mem_composed {text : List Char} (delimits : c ∈ delimiters) (member : c ∈ text) :
    c ∈ composed text := by
  have inParts : c ∈ ordered (text.flatMap (partsOf 3)) := by
    refine mem_ordered.mpr (List.mem_flatMap.mpr ⟨c, member, ?_⟩)
    rw [partsOf_delimiter delimits]
    exact List.mem_singleton_self c
  unfold composed
  split
  · rename_i empty
    rw [empty] at inParts
    cases inParts
  · rename_i head rest same
    rw [same] at inParts
    exact mem_joined delimits (by simpa using inParts)

end Domain

/-! ### Labels -/

namespace Punycode

theorem delimiter_no_digit : ∀ c ∈ delimiters, value? c = none ∧ c ≠ '-' :=
  List.all_iff_forall_prop.mp (by decide)

theorem mem_split {spelling : List Char} (notHyphen : c ≠ '-') (member : c ∈ spelling) :
    c ∈ (split spelling).1 ∨ c ∈ (split spelling).2 := by
  let isDigit : Char → Bool := (· ≠ '-')
  let digits := (spelling.reverse.takeWhile isDigit).reverse
  have whole : spelling = (spelling.reverse.dropWhile isDigit).reverse ++ digits := by
    rw [← List.reverse_append, List.takeWhile_append_dropWhile, List.reverse_reverse]
  have result : split spelling =
      if (spelling.take (spelling.length - digits.length - 1)).isEmpty then ([], spelling)
      else (spelling.take (spelling.length - digits.length - 1), digits) := rfl
  rw [result]
  split
  · exact Or.inr member
  · have ends := List.head?_dropWhile_not isDigit spelling.reverse
    cases behind : spelling.reverse.dropWhile isDigit with
    | nil =>
        rw [behind] at whole
        exact Or.inr (whole ▸ member)
    | cons mark before =>
        rw [behind] at whole ends
        have hyphen : mark = '-' := by simpa [isDigit] using ends
        have parts : spelling = before.reverse ++ '-' :: digits := by
          rw [whole, hyphen]
          simp
        have place : spelling.length - digits.length - 1 = before.reverse.length := by
          rw [parts, List.length_append, List.length_cons]
          omega
        have taken : spelling.take (spelling.length - digits.length - 1) = before.reverse := by
          rw [place, parts, List.take_left]
        rw [taken]
        rw [parts] at member
        rcases List.mem_append.mp member with inFront | behindFront
        · exact Or.inl inFront
        · exact Or.inr (List.mem_of_ne_of_mem notHyphen behindFront)

theorem Reading.mem_step? {reading next : Reading} {digit : Char}
    (read : reading.step? digit = some next) (member : c ∈ reading.text) : c ∈ next.text := by
  simp only [step?, Option.bind_eq_bind, Option.bind_eq_some_iff] at read
  obtain ⟨value, _, read⟩ := read
  split at read
  · unfold insert? at read
    split at read
    rename_i code index _
    split at read
    · cases read
      rw [← List.take_append_drop index reading.text] at member
      rcases List.mem_append.mp member with before | after
      · exact List.mem_append_left _ before
      · exact List.mem_append_right _ (List.mem_cons_of_mem _ after)
    · cases read
  · cases read
    exact member

theorem Reading.mem_run {digits : List Char} {reading last : Reading}
    (read : digits.foldlM step? reading = some last) (delimits : c ∈ delimiters)
    (member : c ∈ reading.text ∨ c ∈ digits) : c ∈ last.text := by
  induction digits generalizing reading with
  | nil =>
      cases read
      exact member.resolve_right List.not_mem_nil
  | cons digit rest ih =>
      rw [List.foldlM_cons] at read
      obtain ⟨next, stepped, read⟩ := Option.bind_eq_some_iff.mp read
      apply ih read
      rcases member with inText | inDigits
      · exact Or.inl (mem_step? stepped inText)
      · rcases List.mem_cons.mp inDigits with rfl | inRest
        · rw [step?, (delimiter_no_digit c delimits).1] at stepped
          cases stepped
        · exact Or.inr inRest

theorem mem_decode? {spelling text : List Char} (read : decode? spelling = some text)
    (delimits : c ∈ delimiters) (member : c ∈ spelling) : c ∈ text := by
  have parts := mem_split (delimiter_no_digit c delimits).2 member
  unfold decode? at read
  obtain ⟨reading, run, read⟩ := Option.bind_eq_some_iff.mp read
  have inText := Reading.mem_run run delimits parts
  split at read
  · cases read
    exact inText
  · cases read

theorem mem_encode {text : List Char} (ascii : isAscii c) (member : c ∈ text) :
    c ∈ encode text := by
  have plain : c ∈ text.filter isAscii := List.mem_filter.mpr ⟨member, ascii⟩
  unfold encode
  cases kept : text.filter isAscii with
  | nil =>
      rw [kept] at plain
      cases plain
  | cons head rest =>
      rw [kept] at plain
      apply List.mem_append_left
      rw [if_neg (by simp)]
      exact List.mem_append_left _ plain

end Punycode

namespace Domain

theorem exists_of_mem_mapM {α β : Type} {each : α → Option β} {items : List α} {results : List β}
    (done : items.mapM each = some results) {item : α} (member : item ∈ items) :
    ∃ result ∈ results, each item = some result :=
  Result.exists_of_forall₂ (Result.mapM_eq_some.mp done) member

theorem mem_intercalate {separator : Char} {parts : List (List Char)} (different : c ≠ separator) :
    c ∈ [separator].intercalate parts ↔ ∃ part ∈ parts, c ∈ part := by
  induction parts with
  | nil => simp
  | cons head tail ih =>
      cases tail with
      | nil => simp
      | cons next rest =>
          rw [List.intercalate_cons_cons, List.mem_append, List.mem_append, ih]
          simp [different]

theorem delimiter_image : ∀ c ∈ delimiters, image? c = some [c] ∧ c ≠ '.' ∧
    c ∉ ['x', 'n', '-', '-'] :=
  List.all_iff_forall_prop.mp (by decide)

theorem mem_label? {text label : List Char} (read : label? text = some label)
    (delimits : c ∈ delimiters) (member : c ∈ text) : c ∈ label := by
  unfold label? at read
  split at read
  · rename_i spelling
    have inSpelling : c ∈ spelling := by
      have notMark := (delimiter_image c delimits).2.2
      simp only [List.mem_cons] at member notMark
      tauto
    split at read
    · cases read
    · obtain ⟨decoded, spelled, read⟩ := Option.bind_eq_some_iff.mp read
      have inDecoded := Punycode.mem_decode? spelled delimits inSpelling
      split at read
      · cases read
      · cases read
        exact inDecoded
  · cases read
    exact member

theorem mem_spelled {label : List Char} (delimits : c ∈ delimiters) (member : c ∈ label) :
    c ∈ spelled label := by
  have ascii : Punycode.isAscii c := decide_eq_true (delimiter_ascii c delimits)
  unfold spelled
  split
  · exact member
  · exact List.mem_append_right _ (Punycode.mem_encode ascii member)

theorem mem_toAscii? {text name : List Char} (read : toAscii? text = some name)
    (delimits : c ∈ delimiters) (member : c ∈ text) : c ∈ name := by
  obtain ⟨image, notDot, _⟩ := delimiter_image c delimits
  unfold toAscii? at read
  obtain ⟨images, imaged, read⟩ := Option.bind_eq_some_iff.mp read
  obtain ⟨labels, labelled, read⟩ := Option.bind_eq_some_iff.mp read
  have inComposed : c ∈ composed images.flatten := by
    obtain ⟨found, present, same⟩ := exists_of_mem_mapM imaged member
    cases image.symm.trans same
    exact mem_composed delimits (List.mem_flatten.mpr ⟨_, present, List.mem_singleton_self c⟩)
  have split : ['.'].intercalate ((composed images.flatten).splitOn '.') =
      composed images.flatten := List.intercalate_splitOn '.'
  rw [← split, mem_intercalate notDot] at inComposed
  obtain ⟨part, split, inPart⟩ := inComposed
  obtain ⟨label, present, same⟩ := exists_of_mem_mapM labelled split
  have inLabel := mem_spelled delimits (mem_label? same delimits inPart)
  split at read
  · cases read
    exact (mem_intercalate notDot).mpr ⟨spelled label, List.mem_map_of_mem present, inLabel⟩
  · cases read

end Domain

/-! ### Hosts -/

namespace Host

theorem delimiter_forbidden : ∀ c ∈ delimiters, isForbiddenInDomain c :=
  List.all_iff_forall_prop.mp (by decide +kernel)

theorem delimiter_octet : ∀ c ∈ delimiters, UInt8.ofNat c.toNat ≠ 0x25 ∧
    UInt8.ofNat c.toNat < 0x80 ∧ Char.ofNat (UInt8.ofNat c.toNat).toNat = c ∧
    Escape.hexValue? c = none :=
  List.all_iff_forall_prop.mp (by decide)

/-- A domain is not read from a text with a delimiter. -/
theorem not_mem_of_domain {text : List Char} {host : Host} (read : special? text = some host)
    (unbracketed : text.head? ≠ some '[') (delimits : c ∈ delimiters) : c ∉ text := by
  intro member
  obtain ⟨notMark, single, restored, noDigit⟩ := delimiter_octet c delimits
  rw [special?, if_neg unbracketed] at read
  obtain ⟨decoded, cut, read⟩ := Option.bind_eq_some_iff.mp read
  obtain ⟨name, mapped, read⟩ := Option.bind_eq_some_iff.mp read
  have inBytes := Text.Utf8.mem_encode (delimiter_ascii c delimits) member
  have unescaped := Escape.mem_decode notMark (restored.symm ▸ noDigit) inBytes
  have decodes : Text.Utf8.decode
      (Escape.decode (Text.Utf8.encode (String.ofList text))) = .ok decoded := by
    generalize Text.Utf8.decode _ = result at cut
    cases result with
    | error fault => cases cut
    | ok value =>
        cases cut
        rfl
  have inDecoded : c ∈ decoded.toList :=
    restored ▸ Text.Utf8.mem_decode single decodes unescaped
  have inName := Domain.mem_toAscii? mapped delimits inDecoded
  have refused : name.any isForbiddenInDomain = true :=
    List.any_eq_true.mpr ⟨c, inName, delimiter_forbidden c delimits⟩
  rw [refused, Bool.or_true, if_pos rfl] at read
  cases read

/-! ### Addresses in brackets -/

def isOfAddress (c : Char) : Bool :=
  c = ':' || c = '.' || (Escape.hexValue? c).isSome

theorem isOfAddress_of_group? {digits : List Char} {group : Nat}
    (read : group? digits = some group) (member : c ∈ digits) : isOfAddress c := by
  unfold group? at read
  split at read
  · cases read
  · suffices found : (Escape.hexValue? c).isSome by
      rw [isOfAddress, found, Bool.or_true]
    clear * - read member
    revert read
    generalize (0 : Nat) = start
    intro read
    induction digits generalizing start with
    | nil => cases member
    | cons digit rest ih =>
        rw [List.foldlM_cons] at read
        obtain ⟨next, added, read⟩ := Option.bind_eq_some_iff.mp read
        rcases List.mem_cons.mp member with rfl | inRest
        · obtain ⟨value, found, _⟩ := Option.map_eq_some_iff.mp added
          rw [found]
          rfl
        · exact ih inRest next read

theorem isOfAddress_of_digit (digit : c.isDigit) : isOfAddress c := by
  rw [isOfAddress, Escape.hexValue?, if_pos digit]
  simp

theorem isOfAddress_of_embedded? {text : List Char} {groups : List Nat}
    (read : embedded? text = some groups) (member : c ∈ text) : isOfAddress c := by
  by_cases dot : c = '.'
  · simp [isOfAddress, dot]
  · obtain ⟨bytes, numbers, _⟩ := Option.bind_eq_some_iff.mp read
    have whole : ['.'].intercalate (text.splitOn '.') = text := List.intercalate_splitOn '.'
    rw [← whole, Domain.mem_intercalate dot] at member
    obtain ⟨part, split, inPart⟩ := member
    obtain ⟨byte, _, number⟩ := Domain.exists_of_mem_mapM numbers split
    by_cases digits : part.all Char.isDigit
    · exact isOfAddress_of_digit (List.all_eq_true.mp digits c inPart)
    · simp [digits] at number

theorem isOfAddress_of_groups? {text : List Char} {groups : List Nat}
    (read : groups? text = some groups) (member : c ∈ text) : isOfAddress c := by
  by_cases colon : c = ':'
  · simp [isOfAddress, colon]
  · unfold groups? at read
    split at read
    · rename_i empty
      rw [List.isEmpty_iff.mp empty] at member
      cases member
    · obtain ⟨last, ends, read⟩ := Option.bind_eq_some_iff.mp read
      obtain ⟨front, grouped, read⟩ := Option.bind_eq_some_iff.mp read
      have whole : [':'].intercalate (text.splitOn ':') = text := List.intercalate_splitOn ':'
      rw [← whole, Domain.mem_intercalate colon] at member
      obtain ⟨part, split, inPart⟩ := member
      obtain ⟨front', parts⟩ := List.getLast?_eq_some_iff.mp ends
      rw [parts, List.dropLast_concat] at grouped
      rw [parts] at split
      rcases List.mem_append.mp split with inFront | atLast
      · obtain ⟨group, _, found⟩ := Domain.exists_of_mem_mapM grouped inFront
        exact isOfAddress_of_group? found inPart
      · rw [List.mem_singleton.mp atLast] at inPart
        split at read
        · obtain ⟨embedded, found, _⟩ := Option.bind_eq_some_iff.mp read
          exact isOfAddress_of_embedded? found inPart
        · obtain ⟨group, found, _⟩ := Option.bind_eq_some_iff.mp read
          exact isOfAddress_of_group? found inPart

theorem splitAtGap_eq_some {text before after : List Char}
    (split : splitAtGap text = some (before, after)) : text = before ++ ':' :: ':' :: after := by
  fun_induction splitAtGap text generalizing before with
  | case1 rest =>
      cases split
      rfl
  | case2 c rest _ ih =>
      obtain ⟨⟨front, back⟩, found, same⟩ := Option.map_eq_some_iff.mp split
      cases same
      rw [ih found]
      rfl
  | case3 => cases split

theorem isOfAddress_of_ipv6? {text : List Char} {groups : List Nat}
    (read : ipv6? text = some groups) (member : c ∈ text) : isOfAddress c := by
  unfold ipv6? at read
  split at read
  · exact isOfAddress_of_groups? (Option.filter_eq_some_iff.mp read).1 member
  · rename_i before after gap
    obtain ⟨front, frontRead, read⟩ := Option.bind_eq_some_iff.mp read
    obtain ⟨back, backRead, read⟩ := Option.bind_eq_some_iff.mp read
    rw [splitAtGap_eq_some gap] at member
    rcases List.mem_append.mp member with inFront | behind
    · exact isOfAddress_of_groups? frontRead inFront
    · rcases List.mem_cons.mp behind with rfl | behind
      · rfl
      · rcases List.mem_cons.mp behind with rfl | inBack
        · rfl
        · exact isOfAddress_of_groups? backRead inBack

/-- A text in brackets is read as a host only if an address is between them. -/
theorem exists_of_bracketed {text : List Char} {host : Host} (read : special? text = some host)
    (bracketed : text.head? = some '[') :
    ∃ address, text = '[' :: (address ++ [']']) ∧ ∀ c ∈ address, isOfAddress c := by
  rw [special?, if_pos bracketed] at read
  unfold bracketed? at read
  split at read
  · rename_i closed
    obtain ⟨groups, found, _⟩ := Option.map_eq_some_iff.mp read
    obtain ⟨tail, rfl⟩ := List.head?_eq_some_iff.mp bracketed
    obtain ⟨front, same⟩ := List.getLast?_eq_some_iff.mp closed
    cases front with
    | nil => cases same
    | cons head address =>
        have behind : tail = address ++ [']'] := (List.cons.inj same).2
        rw [behind, List.tail_cons, List.dropLast_concat] at found
        exact ⟨address, by rw [behind], fun c member => isOfAddress_of_ipv6? found member⟩
  · cases read

theorem delimiter_of_address : ∀ c ∈ delimiters, isOfAddress c → c = ':' :=
  List.all_iff_forall_prop.mp (by decide)

/-- No host is read from a text with a delimiter other than the colons of an address. -/
theorem not_mem_of_special? {text : List Char} {host : Host} (read : special? text = some host)
    (delimits : c ∈ delimiters) (notColon : c ≠ ':') : c ∉ text := by
  by_cases bracketed : text.head? = some '['
  · obtain ⟨address, rfl, ofAddress⟩ := exists_of_bracketed read bracketed
    intro member
    rcases List.mem_cons.mp member with rfl | member
    · revert delimits
      decide
    · rcases List.mem_append.mp member with inAddress | atEnd
      · exact notColon (delimiter_of_address c delimits (ofAddress c inAddress))
      · rw [List.mem_singleton.mp atEnd] at delimits
        revert delimits
        decide
  · exact not_mem_of_domain read bracketed delimits

end Host

theorem splitPort_of_no_colon {text : List Char} (noColon : ':' ∉ text) (bracketed : Bool) :
    splitPort bracketed text = (text, []) := by
  induction text generalizing bracketed with
  | nil => rfl
  | cons head tail ih =>
      obtain ⟨different, inTail⟩ := not_or.mp (noColon ∘ List.mem_cons.mpr)
      simp only [splitPort, ih inTail, Ne.symm different, decide_false, Bool.false_and,
        Bool.false_eq_true, if_false]

theorem splitPort_in_brackets {address : List Char} (unclosed : ']' ∉ address) :
    splitPort true (address ++ [']']) = (address ++ [']'], []) := by
  induction address with
  | nil => rfl
  | cons head tail ih =>
      obtain ⟨different, inTail⟩ := not_or.mp (unclosed ∘ List.mem_cons.mpr)
      simp only [List.cons_append, splitPort, Ne.symm different, ih inTail, if_false, ite_self,
        Bool.not_true, Bool.and_false, Bool.false_eq_true]

theorem splitPort_of_special? {text : List Char} {host : Host}
    (read : Host.special? text = some host) : splitPort false text = (text, []) := by
  by_cases bracketed : text.head? = some '['
  · obtain ⟨address, rfl, ofAddress⟩ := Host.exists_of_bracketed read bracketed
    have unclosed : ']' ∉ address := fun member => absurd (ofAddress ']' member) (by decide)
    have rest := splitPort_in_brackets unclosed
    rw [splitPort, if_neg (by decide), if_pos rfl]
    simp only [rest]
  · exact splitPort_of_no_colon (Host.not_mem_of_domain read bracketed (by decide)) false

end Url

end StagedRuns
