import StagedRuns.Proofs.Text.Cut
import StagedRuns.Proofs.Url.Host
import StagedRuns.Watch.Repository

/-!
Reading an address back: what stands behind a host in plain segments is the path that is read, so
the repository at a clone address is the one that the address was made for.
-/

namespace StagedRuns

namespace Url

structure PlainSegment (segment : String) : Prop where
  kept : ∀ c ∈ segment.toList, Escape.keptInPath c ∧ c ≠ '/' ∧ c ≠ '\\'
  single : isSingleDot segment.toList = false
  double : isDoubleDot segment.toList = false

def spelledPath (segments : List String) : List Char :=
  segments.flatMap fun segment => '/' :: segment.toList

theorem toLower_cases (c : Char) :
    c.toLower = c ∨ c.toLower.isLower = true ∧ c.toLower.toNat = c.toNat + 32 := by
  unfold Char.toLower
  split
  · rename_i capital
    right
    have low : 65 ≤ c.toNat := UInt32.le_iff_toNat_le.mp capital.1
    have high : c.toNat ≤ 90 := UInt32.le_iff_toNat_le.mp capital.2
    have raised : (c.val + 32).toNat = c.toNat + 32 := by
      rw [UInt32.toNat_add]
      exact Nat.mod_eq_of_lt (by change c.toNat + 32 < 2 ^ 32; omega)
    refine ⟨?_, raised⟩
    unfold Char.isLower
    simp only [ge_iff_le, Bool.and_eq_true, decide_eq_true_eq, UInt32.le_iff_toNat_le]
    change 97 ≤ (c.val + 32).toNat ∧ (c.val + 32).toNat ≤ 122
    omega
  · exact Or.inl rfl

theorem eq_of_toLower_eq {c d : Char} (same : c.toLower = d) (noLetter : d.isLower = false) :
    c = d := by
  rcases toLower_cases c with kept | ⟨letter, _⟩
  · exact kept.symm.trans same
  · rw [same, noLetter] at letter
    cases letter

theorem mem_of_mem_map_toLower {text : List Char} {d : Char} (noLetter : d.isLower = false)
    (member : d ∈ text.map Char.toLower) : d ∈ text := by
  obtain ⟨c, present, same⟩ := List.mem_map.mp member
  exact eq_of_toLower_eq same noLetter ▸ present

theorem eq_of_map_toLower_eq {text other : List Char} (same : text.map Char.toLower = other)
    (noLetter : ∀ d ∈ other, d.isLower = false) : text = other := by
  have lower : text.map Char.toLower = text.map id := by
    refine List.map_congr_left fun c present => ?_
    have listed : c.toLower ∈ other := same ▸ List.mem_map_of_mem present
    exact (eq_of_toLower_eq rfl (noLetter _ listed)).symm
  rw [← same, lower, List.map_id]

theorem isSingleDot_cases {segment : List Char} (dot : isSingleDot segment) :
    segment = ['.'] ∨ '%' ∈ segment := by
  simp only [isSingleDot, List.contains_cons, List.contains_nil, Bool.or_false, Bool.or_eq_true,
    beq_iff_eq, ← String.toList_inj, String.toList_ofList] at dot
  rcases dot with here | spelled
  · exact Or.inl (eq_of_map_toLower_eq here (List.all_iff_forall_prop.mp (by decide)))
  · exact Or.inr (mem_of_mem_map_toLower rfl (by rw [spelled]; decide))

theorem isDoubleDot_cases {segment : List Char} (dots : isDoubleDot segment) :
    segment = ['.', '.'] ∨ '%' ∈ segment := by
  simp only [isDoubleDot, List.contains_cons, List.contains_nil, Bool.or_false, Bool.or_eq_true,
    beq_iff_eq, ← String.toList_inj, String.toList_ofList] at dots
  rcases dots with above | spelled | spelled | spelled
  · exact Or.inl (eq_of_map_toLower_eq above (List.all_iff_forall_prop.mp (by decide)))
  all_goals exact Or.inr (mem_of_mem_map_toLower rfl (by rw [spelled]; decide))

variable {segments : List String}

theorem printed_of_keptInPath {c : Char} (kept : Escape.keptInPath c) :
    0x20 < c.toNat ∧ c ≠ '?' ∧ c ≠ '#' := by
  have other : c ≠ ' ' ∧ c ≠ '?' ∧ c ≠ '#' := by
    refine ⟨?_, ?_, ?_⟩ <;> rintro rfl <;> revert kept <;> decide
  have printable : 0x20 ≤ c.toNat := by
    unfold Escape.keptInPath Escape.isPlain at kept
    simp only [Bool.and_eq_true, decide_eq_true_eq] at kept
    exact kept.1.1
  have notSpace : c.toNat ≠ 0x20 := fun same => other.1 (Char.toNat_inj.mp same)
  exact ⟨by omega, other.2⟩

theorem PlainSegment.isSlash_eq_false {segment : String} (plain : PlainSegment segment)
    (special : Bool) {c : Char} (member : c ∈ segment.toList) : isSlash special c = false := by
  obtain ⟨_, notSlash, notBackslash⟩ := plain.kept c member
  simp [isSlash, notSlash, notBackslash]

theorem isGap_eq_false {c : Char} (printed : 0x20 < c.toNat) : isGap c = false := by
  unfold isGap
  simp only [Bool.or_eq_false_iff, decide_eq_false_iff_not]
  refine ⟨⟨?_, ?_⟩, ?_⟩ <;> rintro rfl <;> revert printed <;> decide

theorem withoutGaps_of_no_gap {text : List Char} (dense : ∀ c ∈ text, isGap c = false) :
    withoutGaps text = text := by
  refine List.filter_eq_self.mpr fun c member => ?_
  rw [dense c member]
  rfl

theorem PlainSegment.withoutGaps_eq {segment : String} (plain : PlainSegment segment) :
    withoutGaps segment.toList = segment.toList :=
  withoutGaps_of_no_gap fun c member =>
    isGap_eq_false (printed_of_keptInPath (plain.kept c member).1).1

theorem splitPath_spelled {first : String} {rest : List String}
    (plain : ∀ segment ∈ first :: rest, PlainSegment segment) (special : Bool) :
    splitPath special (first.toList ++ spelledPath rest) = (first :: rest).map String.toList := by
  have unslashed : ∀ c ∈ first.toList, isSlash special c = false := fun c member =>
    (plain first List.mem_cons_self).isSlash_eq_false special member
  unfold splitPath
  induction rest generalizing first with
  | nil =>
      rw [spelledPath, List.flatMap_nil, List.append_nil]
      exact List.splitOnP_eq_singleton unslashed
  | cons next rest ih =>
      have later := fun segment member => plain segment (List.mem_cons_of_mem first member)
      have split := ih later fun c member =>
        (later next List.mem_cons_self).isSlash_eq_false special member
      rw [spelledPath, List.flatMap_cons, List.cons_append,
        List.splitOnP_append_cons_of_forall_mem unslashed '/' rfl]
      exact congrArg (first.toList :: ·) split

theorem PlainSegment.kept_eq {segment : String} (plain : PlainSegment segment)
    (before : List (List Char)) : Url.kept false before segment.toList = [segment.toList] := by
  have encoded : Escape.encode Escape.keptInPath segment.toList = segment.toList := by
    unfold Escape.encode
    conv_rhs => rw [← List.flatMap_singleton' segment.toList]
    refine List.flatMap_congr fun c member => ?_
    rw [if_pos (plain.kept c member).1]
  simp only [Url.kept, Bool.false_and, Bool.false_eq_true, if_false, plain.withoutGaps_eq, encoded]

theorem addSegments_plain (plain : ∀ segment ∈ segments, PlainSegment segment)
    (before : List (List Char)) :
    addSegments false before (segments.map String.toList) =
      (segments.map String.toList).reverse ++ before := by
  induction segments generalizing before with
  | nil => rfl
  | cons segment rest ih =>
      have here := plain segment List.mem_cons_self
      rw [List.map_cons, addSegments, here.withoutGaps_eq, here.double, here.single, here.kept_eq]
      rw [if_neg Bool.false_ne_true, if_neg Bool.false_ne_true,
        ih fun segment member => plain segment (List.mem_cons_of_mem _ member)]
      simp

theorem pathOf_spelled (occupied : segments ≠ [])
    (plain : ∀ segment ∈ segments, PlainSegment segment) :
    pathOf "https" (spelledPath segments) = .segments segments := by
  obtain ⟨first, rest, rfl⟩ := List.exists_cons_of_ne_nil occupied
  have unslashed : withoutSlash (isSpecial "https") (spelledPath (first :: rest)) =
      first.toList ++ spelledPath rest := rfl
  have split : splitPath (isSpecial "https") (first.toList ++ spelledPath rest) =
      (first :: rest).map String.toList := splitPath_spelled plain _
  have added := addSegments_plain plain []
  unfold pathOf
  rw [if_neg (by simp [spelledPath])]
  rw [unslashed, segmentsOf, split, decide_eq_false (by decide), added, List.append_nil,
    List.reverse_reverse, List.map_map]
  congr 1
  exact (List.map_congr_left fun segment _ => String.ofList_toList).trans (List.map_id _)

theorem printed_of_mem_spelledPath (plain : ∀ segment ∈ segments, PlainSegment segment) {c : Char}
    (member : c ∈ spelledPath segments) : 0x20 < c.toNat ∧ c ≠ '?' ∧ c ≠ '#' := by
  obtain ⟨segment, listed, member⟩ := List.mem_flatMap.mp member
  rcases List.mem_cons.mp member with rfl | inSegment
  · decide
  · exact printed_of_keptInPath ((plain segment listed).kept c inSegment).1

theorem splitBefore_of_none {ends : Char → Bool} {text : List Char}
    (none : ∀ c ∈ text, ends c = false) (rest : List Char)
    (ended : ∀ c ∈ rest.head?, ends c = true) : splitBefore ends (text ++ rest) = (text, rest) := by
  have keeps : ∀ c ∈ text, (!ends c) = true := fun c member => by rw [none c member]; rfl
  have stops : ∀ c ∈ rest.head?, (!ends c) = false := fun c first => by rw [ended c first]; rfl
  exact Prod.ext (Text.takeWhile_ends keeps stops) (Text.dropWhile_ends keeps stops)

theorem splitTail_plain {text : List Char} (plain : ∀ c ∈ text, c ≠ '?' ∧ c ≠ '#') :
    splitTail "https" text = (text, none, none) := by
  have before : splitBefore (fun c => c = '?' || c = '#') text = (text, []) := by
    have noEnd : ∀ c ∈ text, (fun c => c = '?' || c = '#' : Char → Bool) c = false :=
      fun c member => by simp [plain c member]
    have whole := splitBefore_of_none noEnd [] (by simp)
    rwa [List.append_nil] at whole
  unfold splitTail
  rw [before]
  rfl

theorem authorityOf?_host {text : List Char} {host : Host} (read : Host.special? text = some host) :
    authorityOf? "https" text true = some (⟨"", none, host, none⟩, []) := by
  have noAt : '@' ∉ text := Host.not_mem_of_special? read (by decide) (by decide)
  have whole : splitAtLastAt text = none := by
    rw [splitAtLastAt, if_neg (by simpa using noAt)]
  have found : hostOf? "https" text = some host := read
  have notAt : text ≠ ['@'] := by
    rintro rfl
    exact noAt (List.mem_singleton_self '@')
  have nobody : userOf [] = ("", none) := rfl
  have noPort : portOf? "https" [] = some (none, []) := rfl
  unfold authorityOf?
  simp only [whole, Option.getD_none, nobody, splitPort_of_special? read, found, noPort,
    Option.bind_eq_bind, Option.bind_some]
  simp [notAt]

theorem Host.mem_ordinary {text : List Char} {host : Host} (read : special? text = some host)
    {c : Char} (member : c ∈ text) : isGap c = false ∧ endsAuthority "https" c = false := by
  have other : ∀ d ∈ delimiters, d ≠ ':' → c ≠ d := fun d delimits notColon same =>
    not_mem_of_special? read delimits notColon (same ▸ member)
  constructor
  · simp [isGap, other '\t' (by decide) (by decide), other '\n' (by decide) (by decide),
      other '\r' (by decide) (by decide)]
  · simp [endsAuthority, isSlash, other '/' (by decide) (by decide),
      other '\\' (by decide) (by decide), other '?' (by decide) (by decide),
      other '#' (by decide) (by decide)]

theorem Host.ne_nil_of_special? {text : List Char} {host : Host}
    (read : special? text = some host) : text ≠ [] := by
  rintro rfl
  have refused : special? [] = none := by decide +kernel
  rw [refused] at read
  cases read

theorem withAuthority?_spelled {host : List Char} {found : Host}
    (read : Host.special? host = some found) (occupied : segments ≠ [])
    (plain : ∀ segment ∈ segments, PlainSegment segment) :
    withAuthority? "https" (host ++ spelledPath segments) = some
      { scheme := "https", user := "", password := none, host := some found, port := none
        path := .segments segments, query := none, fragment := none } := by
  have split : splitBefore (endsAuthority "https") (host ++ spelledPath segments) =
      (host, spelledPath segments) := by
    refine splitBefore_of_none ?_ _ ?_
    · exact fun c member => (Host.mem_ordinary read member).2
    · intro c first
      obtain ⟨segment, rest, rfl⟩ := List.exists_cons_of_ne_nil occupied
      cases first
      rfl
  have follows : (!(spelledPath segments).isEmpty) = true := by
    obtain ⟨segment, rest, rfl⟩ := List.exists_cons_of_ne_nil occupied
    rfl
  have tail := splitTail_plain fun c member => (printed_of_mem_spelledPath plain member).2
  unfold withAuthority?
  simp only [split, follows, authorityOf?_host read, Option.bind_eq_bind, Option.bind_some,
    List.nil_append, tail, pathOf_spelled occupied plain]

theorem trimmed_eq {text : String} (starts : ∀ c ∈ text.toList.head?, isOuterBlank c = false)
    (ends : ∀ c ∈ text.toList.getLast?, isOuterBlank c = false) : trimmed text = text.toList := by
  have front : text.toList.dropWhile isOuterBlank = text.toList := by
    cases listed : text.toList with
    | nil => rfl
    | cons head tail =>
        rw [listed] at starts
        exact List.dropWhile_cons_of_neg (by rw [starts head rfl]; decide)
  have back : text.toList.reverse.dropWhile isOuterBlank = text.toList.reverse := by
    rw [← List.head?_reverse] at ends
    cases listed : text.toList.reverse with
    | nil => rfl
    | cons head tail =>
        rw [listed] at ends
        exact List.dropWhile_cons_of_neg (by rw [ends head rfl]; decide)
  rw [trimmed, front, back, List.reverse_reverse]

/-- An address on a host is read as the host and the segments that it is made of. -/
theorem parse?_spelled {host : String} {found : Host}
    (read : Host.special? host.toList = some found) (occupied : segments ≠ [])
    (plain : ∀ segment ∈ segments, PlainSegment segment) :
    parse? ("https://" ++ host ++ String.ofList (spelledPath segments)) = some
      { scheme := "https", user := "", password := none, host := some found, port := none
        path := .segments segments, query := none, fragment := none } := by
  generalize address : "https://" ++ host ++ String.ofList (spelledPath segments) = text
  have chars : text.toList =
      'h' :: 't' :: 't' :: 'p' :: 's' :: ':' ::
        ('/' :: '/' :: (host.toList ++ spelledPath segments)) := by
    rw [← address, String.toList_append, String.toList_append, String.toList_ofList]
    simp
  have whole : trimmed text = text.toList := by
    refine trimmed_eq ?_ ?_
    · intro c first
      rw [chars] at first
      cases first
      rfl
    · intro c last
      have inPath : c ∈ spelledPath segments := by
        obtain ⟨segment, rest, rfl⟩ := List.exists_cons_of_ne_nil occupied
        rw [← address, String.toList_append, String.toList_ofList, List.getLast?_append] at last
        cases ends : (spelledPath (segment :: rest)).getLast? with
        | none => exact absurd (List.getLast?_eq_none_iff.mp ends) (by simp [spelledPath])
        | some d =>
            rw [ends] at last
            cases last
            exact List.mem_of_getLast? ends
      have printed := (printed_of_mem_spelledPath plain inPath).1
      simp only [isOuterBlank, decide_eq_false_iff_not]
      omega
  have scheme : splitScheme? text.toList =
      some ("https", '/' :: '/' :: (host.toList ++ spelledPath segments)) := by
    rw [chars]
    rfl
  have dense : withoutGaps ('/' :: '/' :: (host.toList ++ spelledPath segments)) =
      '/' :: '/' :: (host.toList ++ spelledPath segments) := by
    refine withoutGaps_of_no_gap fun c member => ?_
    simp only [List.mem_cons, List.mem_append] at member
    rcases member with rfl | rfl | inHost | inPath
    · rfl
    · rfl
    · exact (Host.mem_ordinary read inHost).1
    · exact isGap_eq_false (printed_of_mem_spelledPath plain inPath).1
  have slashes : ('/' :: '/' :: (host.toList ++ spelledPath segments)).dropWhile (isSlash true) =
      host.toList ++ spelledPath segments := by
    have slash : isSlash true '/' = true := rfl
    obtain ⟨head, tail, same⟩ := List.exists_cons_of_ne_nil (Host.ne_nil_of_special? read)
    have ends := (Host.mem_ordinary read (same ▸ List.mem_cons_self)).2
    have unslashed : ¬ isSlash true head = true := by
      intro slashed
      have special : isSpecial "https" = true := rfl
      rw [endsAuthority, special, slashed] at ends
      cases ends
    rw [List.dropWhile_cons_of_pos slash, List.dropWhile_cons_of_pos slash, same,
      List.cons_append, List.dropWhile_cons_of_neg unslashed]
  unfold parse?
  simp only [whole, scheme, Option.bind_eq_bind, Option.bind_some, dense, slashes]
  rw [if_neg (by decide), if_pos (by decide)]
  exact withAuthority?_spelled read occupied plain

end Url

namespace Watch

def isOfName (c : Char) : Bool :=
  c.isAlphanum || c = '-' || c = '_' || c = '.'

structure IsName (name : String) : Prop where
  occupied : name ≠ ""
  characters : ∀ c ∈ name.toList, isOfName c
  notHere : name ≠ "."
  notAbove : name ≠ ".."

def cloneAddress (host owner name : String) : String :=
  "https://" ++ host ++ "/" ++ owner ++ "/" ++ name ++ ".git"

theorem isPlain_of_isOfName {c : Char} (ofName : isOfName c) : Url.Escape.isPlain c := by
  simp only [isOfName, Bool.or_eq_true, decide_eq_true_eq] at ofName
  rcases ofName with ((letterOrDigit | rfl) | rfl) | rfl
  · exact Url.Escape.isPlain_of_isAlphanum letterOrDigit
  all_goals decide

theorem keptInPath_of_isOfName {c : Char} (ofName : isOfName c) :
    Url.Escape.keptInPath c ∧ c ≠ '/' ∧ c ≠ '\\' := by
  have unkept : " \"<>\x60#?\x7b\x7d".toList.contains c = false := by
    have noOther : ∀ d ∈ " \"<>\x60#?\x7b\x7d".toList, isOfName d = false :=
      List.all_iff_forall_prop.mp (by decide)
    refine Bool.eq_false_iff.mpr fun listed => ?_
    rw [noOther c (List.contains_iff_mem.mp listed)] at ofName
    cases ofName
  refine ⟨?_, ?_, ?_⟩
  · rw [Url.Escape.keptInPath, isPlain_of_isOfName ofName, unkept]
    rfl
  · rintro rfl
    exact absurd ofName (by decide)
  · rintro rfl
    exact absurd ofName (by decide)

theorem not_percent_of_isOfName {text : List Char} (ofName : ∀ c ∈ text, isOfName c) :
    '%' ∉ text :=
  fun member => absurd (ofName '%' member) (by decide)

theorem plainSegment_of_isOfName {segment : String} (ofName : ∀ c ∈ segment.toList, isOfName c)
    (notHere : segment.toList ≠ ['.']) (notAbove : segment.toList ≠ ['.', '.']) :
    Url.PlainSegment segment where
  kept := fun c member => keptInPath_of_isOfName (ofName c member)
  single := by
    refine Bool.eq_false_iff.mpr fun dot => ?_
    rcases Url.isSingleDot_cases dot with here | percent
    · exact notHere here
    · exact not_percent_of_isOfName ofName percent
  double := by
    refine Bool.eq_false_iff.mpr fun dots => ?_
    rcases Url.isDoubleDot_cases dots with above | percent
    · exact notAbove above
    · exact not_percent_of_isOfName ofName percent

theorem IsName.plain {name : String} (named : IsName name) : Url.PlainSegment name := by
  refine plainSegment_of_isOfName named.characters ?_ ?_
  · exact fun same => named.notHere (String.toList_inj.mp same)
  · exact fun same => named.notAbove (String.toList_inj.mp same)

theorem IsName.plain_git {name : String} (named : IsName name) :
    Url.PlainSegment (name ++ ".git") := by
  have chars : (name ++ ".git").toList = name.toList ++ ['.', 'g', 'i', 't'] := by
    rw [String.toList_append]
    rfl
  refine plainSegment_of_isOfName ?_ ?_ ?_
  · intro c member
    rw [chars] at member
    rcases List.mem_append.mp member with inName | inEnding
    · exact named.characters c inName
    · have ofEnding : ∀ d ∈ ['.', 'g', 'i', 't'], isOfName d :=
        List.all_iff_forall_prop.mp (by decide)
      exact ofEnding c inEnding
  · intro same
    have long := congrArg List.length (chars.symm.trans same)
    simp at long
  · intro same
    have long := congrArg List.length (chars.symm.trans same)
    simp at long

theorem withoutEnding_append (text ending : String) :
    withoutEnding ending (text ++ ending) = text := by
  have ends : (text ++ ending).endsWith ending = true := by
    rw [String.endsWith_eq_endsWith_toSlice, String.Slice.endsWith_string_iff]
    simp
  rw [withoutEnding, if_pos ends, String.toList_append, String.length_append, Nat.add_sub_cancel]
  rw [← String.length_toList, List.take_left, String.ofList_toList]

/-- The repository at a clone address is the one that the address was made for. -/
theorem repositoryOf?_cloneAddress {host owner name : String} {found : Url.Host}
    (hosted : Url.Host.special? host.toList = some found) (owned : IsName owner)
    (named : IsName name) :
    repositoryOf? (cloneAddress host owner name) = some (owner ++ "/" ++ name) := by
  have plain : ∀ segment ∈ [owner, name ++ ".git"], Url.PlainSegment segment := by
    intro segment member
    simp only [List.mem_cons, List.not_mem_nil, or_false] at member
    rcases member with rfl | rfl
    · exact owned.plain
    · exact named.plain_git
  have spelled : cloneAddress host owner name =
      "https://" ++ host ++ String.ofList (Url.spelledPath [owner, name ++ ".git"]) := by
    rw [← String.toList_inj]
    simp [cloneAddress, Url.spelledPath]
  have parsed := Url.parse?_spelled hosted (by simp) plain
  have notEmpty : name ++ ".git" ≠ "" := by
    simp
  unfold repositoryOf?
  rw [spelled, parsed]
  simp only [Option.bind_eq_bind, Option.bind_some, Url.segments?]
  simp [owned.occupied, notEmpty, withoutEnding_append]

end Watch

end StagedRuns
