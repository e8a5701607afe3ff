import StagedRuns.Proofs.Result
import StagedRuns.Proofs.Text.Cut
import StagedRuns.Proofs.Url.Verbatim

/-!
Addresses that are extended behind a slash. The address decides where the longer one leads and from
which segments on, all else is read of what stands behind the slash.
-/

namespace StagedRuns.Url

open StagedRuns.Text (takeWhile_stop dropWhile_stop cut_append mem_dropWhile)

variable {scheme : String}

def IsWeb (scheme : String) : Prop :=
  scheme = "http" ∨ scheme = "https"

theorem IsWeb.special (web : IsWeb scheme) : isSpecial scheme = true := by
  rcases web with rfl | rfl <;> rfl

theorem IsWeb.ne_file (web : IsWeb scheme) : scheme ≠ "file" := by
  rcases web with rfl | rfl <;> decide

/-! ### What stops at a slash -/

theorem trimmed_slash (front more : List Char) :
    trimmed (String.ofList (front ++ '/' :: more)) =
      front.dropWhile isOuterBlank ++ '/' :: trimmedEnd more := by
  rw [trimmed, String.toList_ofList, dropWhile_stop rfl, List.reverse_append, List.reverse_cons,
    List.append_assoc, List.singleton_append, dropWhile_stop rfl, List.reverse_append,
    List.reverse_cons, List.append_assoc, List.reverse_reverse, List.singleton_append, trimmedEnd]

theorem withoutGaps_append (text more : List Char) :
    withoutGaps (text ++ more) = withoutGaps text ++ withoutGaps more :=
  List.filter_append _ _

/-- A scheme is read up to its colon, whatever comes behind. -/
theorem splitScheme?_append {text rest : List Char}
    (split : splitScheme? text = some (scheme, rest)) (more : List Char) :
    splitScheme? (text ++ more) = some (scheme, rest ++ more) := by
  unfold splitScheme? at split ⊢
  dsimp only at split ⊢
  split at split
  · rename_i after found
    obtain ⟨name, behind⟩ := cut_append found more
    rw [name, behind]
    split at split
    · rename_i letter
      cases split
      exact if_pos letter
    · cases split
  · cases split

theorem splitScheme?_slash (front more : List Char) :
    splitScheme? (front ++ '/' :: more) =
      (splitScheme? front).map fun read => (read.1, read.2 ++ '/' :: more) := by
  unfold splitScheme?
  dsimp only
  rw [takeWhile_stop rfl, dropWhile_stop rfl]
  cases front.dropWhile fun c => continuesScheme c || isGap c with
  | nil => rfl
  | cons c rest =>
      rw [List.cons_append]
      split
      · rename_i after same
        cases same
        split <;> rfl
      · rename_i other
        split
        · rename_i same
          cases same
          exact absurd rfl (other _)
        · rfl

/-! ### Authorities -/

theorem mem_of_splitAtLastAt {text credentials location : List Char}
    (split : splitAtLastAt text = some (credentials, location)) {c : Char}
    (member : c ∈ location) : c ∈ text := by
  unfold splitAtLastAt at split
  split at split
  · cases split
    exact List.mem_reverse.mp ((List.takeWhile_sublist _).mem (List.mem_reverse.mp member))
  · cases split

theorem mem_of_splitPort {text : List Char} {bracketed : Bool} {c : Char}
    (member : c ∈ (splitPort bracketed text).2) : c ∈ text := by
  induction text generalizing bracketed with
  | nil => exact member
  | cons d rest ih =>
      rw [splitPort] at member
      split at member
      · exact member
      · exact List.mem_cons_of_mem d (ih member)

/-- Behind a port only a backslash begins a path. -/
theorem portOf?_rest {text rest : List Char} {port : Option Nat}
    (read : portOf? scheme text = some (port, rest)) (plain : '\\' ∉ text) : rest = [] := by
  cases text with
  | nil =>
      cases read
      rfl
  | cons mark text =>
      rw [List.mem_cons, not_or] at plain
      have notHead : (text.dropWhile Char.isDigit).head? ≠ some '\\' := by
        intro head
        exact plain.2 ((List.dropWhile_sublist _).mem (List.mem_of_head? head))
      simp only [portOf?] at read
      split at read
      · cases read
      · rename_i whole
        have none : text.dropWhile Char.isDigit = [] := by
          simp [notHead] at whole
          simpa using whole.2
        rw [none] at read
        split at read <;> cases read <;> rfl

theorem authorityOf?_special (web : IsWeb scheme) {text rest : List Char} {authority : Authority}
    {follows : Bool} (plain : '\\' ∉ text)
    (read : authorityOf? scheme text follows = some (authority, rest)) :
    rest = [] ∧ text ≠ [] ∧ authorityOf? scheme text true = some (authority, rest) := by
  have inText : ∀ c ∈ ((splitAtLastAt text).getD ([], text)).2, c ∈ text := by
    intro c member
    cases split : splitAtLastAt text with
    | none =>
        rw [split] at member
        exact member
    | some parts =>
        rw [split] at member
        exact mem_of_splitAtLastAt split member
  have noHost : text = [] ∨ text = ['@'] → ((splitAtLastAt text).getD ([], text)).2 = [] := by
    rintro (rfl | rfl) <;> rfl
  unfold authorityOf? at read ⊢
  generalize (splitAtLastAt text).getD ([], text) = parts at read inText noHost ⊢
  obtain ⟨credentials, location⟩ := parts
  generalize userOf credentials = user at read ⊢
  obtain ⟨user, password⟩ := user
  cases split : splitPort false location with
  | mk hostText portText =>
      simp only [split] at read ⊢
      obtain ⟨host, hostRead, read⟩ := Option.bind_eq_some_iff.mp read
      obtain ⟨⟨port, behind⟩, portRead, read⟩ := Option.bind_eq_some_iff.mp read
      have done : behind = [] := by
        refine portOf?_rest portRead fun member => plain (inText _ ?_)
        have inPort : '\\' ∈ (splitPort false location).2 := by
          rw [split]
          exact member
        exact mem_of_splitPort inPort
      have hosted : ¬ (text = [] ∨ text = ['@']) := by
        intro bare
        cases noHost bare
        cases split
        rw [hostOf?, if_pos web.special] at hostRead
        exact Host.ne_nil_of_special? hostRead rfl
      rw [not_or] at hosted
      rw [hostRead, portRead]
      simp only [Option.bind_eq_bind, Option.bind_some, decide_eq_false hosted.2,
        Bool.false_and] at read ⊢
      refine ⟨?_, hosted.1, read⟩
      split at read
      · cases read
      · cases read
        exact done

/-! ### Behind an authority -/

theorem endsAuthority_cases (web : IsWeb scheme) {c : Char} :
    endsAuthority scheme c = (isSlash true c || isTail c) := by
  rw [endsAuthority, web.special, isTail, Bool.or_assoc]

/-- A text without a query and a fragment is cut where the one behind it is. -/
theorem splitTail_append (scheme : String) {text : List Char} (plain : ∀ c ∈ text, isTail c = false)
    (more : List Char) :
    splitTail scheme (text ++ more) =
      (text ++ (splitTail scheme more).1, (splitTail scheme more).2) := by
  have keeps : ∀ c ∈ text, (!isTail c) = true := fun c member => by rw [plain c member]; rfl
  have parts : splitBefore (fun c => c = '?' || c = '#') (text ++ more) =
      (text ++ (splitBefore (fun c => c = '?' || c = '#') more).1,
        (splitBefore (fun c => c = '?' || c = '#') more).2) :=
    Prod.ext (List.takeWhile_append_of_pos keeps) (List.dropWhile_append_of_pos keeps)
  unfold splitTail
  rw [parts]

theorem splitTail_of_plain (scheme : String) {text : List Char}
    (plain : ∀ c ∈ text, isTail c = false) : splitTail scheme text = (text, none, none) := by
  have none : splitTail scheme [] = ([], none, none) := rfl
  have cut := splitTail_append scheme plain []
  rwa [List.append_nil, none, List.append_nil] at cut

/-- A text that has neither a query nor a fragment has no sign of them. -/
theorem no_tail_of_splitTail {text : List Char} (bare : (splitTail scheme text).2 = (none, none)) :
    ∀ c ∈ text, isTail c = false := by
  have ended : text.dropWhile (!isTail ·) = [] := by
    cases tail : text.dropWhile (!isTail ·) with
    | nil => rfl
    | cons c rest =>
        have sign : isTail c = true := by
          have first := List.head?_dropWhile_not (!isTail ·) text
          rw [tail] at first
          simpa using first
        have parts : splitBefore (fun c => c = '?' || c = '#') text =
            (text.takeWhile (!isTail ·), c :: rest) :=
          Prod.ext rfl tail
        unfold splitTail at bare
        rw [parts] at bare
        simp only [isTail, Bool.or_eq_true, decide_eq_true_eq] at sign
        rcases sign with rfl | rfl
        · cases congrArg Prod.fst bare
        · cases congrArg Prod.snd bare
  intro c member
  simpa using List.dropWhile_eq_nil_iff.mp ended c member

/-! ### Paths -/

/-- The segments, last one first, that are left of segments that others follow. -/
def climbed : (before : List (List Char)) → List (List Char) → List (List Char)
  | before, [] => before
  | before, segment :: rest =>
      if isDoubleDot (withoutGaps segment) then climbed (shorten before) rest
      else if isSingleDot (withoutGaps segment) then climbed before rest
      else climbed (kept false before segment ++ before) rest

theorem addSegments_append {more : List (List Char)} (follows : more ≠ [])
    (before segments : List (List Char)) :
    addSegments false before (segments ++ more) = addSegments false (climbed before segments) more := by
  induction segments generalizing before with
  | nil => rfl
  | cons segment rest ih =>
      have notLast : (rest ++ more).isEmpty = false := by
        simp [follows]
      rw [List.cons_append, addSegments, climbed, notLast, if_neg Bool.false_ne_true]
      split
      · exact ih _
      · split <;> exact ih _

theorem addSegments_eq_climbed (before segments : List (List Char)) :
    addSegments false before segments = climbed before segments ∨
      addSegments false before segments = [] :: climbed before segments := by
  induction segments generalizing before with
  | nil => exact .inl rfl
  | cons segment rest ih =>
      have ended {next : List (List Char)} :
          addSegments false (if rest.isEmpty then [] :: next else next) rest = climbed next rest ∨
            addSegments false (if rest.isEmpty then [] :: next else next) rest =
              [] :: climbed next rest := by
        cases rest with
        | nil => exact .inr rfl
        | cons => exact ih next
      rw [addSegments, climbed]
      split
      · exact ended
      · split
        · exact ended
        · exact ih _

def stackOf : List Char → List (List Char)
  | [] => []
  | _ :: text => climbed [] (splitPath true text)

theorem pathOf_slash (web : IsWeb scheme) {text : List Char}
    (slashed : ∀ c ∈ text.head?, isSlash true c = true) (more : List Char) :
    pathOf scheme (text ++ '/' :: more) =
      .segments ((addSegments false (stackOf text) (splitPath true more)).reverse.map
        String.ofList) := by
  have follows : splitPath true more ≠ [] := List.splitOnP_ne_nil _ _
  have begun : segmentsOf scheme (withoutSlash true (text ++ '/' :: more)) =
      (addSegments false (stackOf text) (splitPath true more)).reverse := by
    rw [segmentsOf, web.special, decide_eq_false web.ne_file]
    cases text with
    | nil => rfl
    | cons c rest =>
        have slash := slashed c rfl
        have noGap : isGap c = false := by
          rcases isSlash_cases slash with rfl | rfl <;> rfl
        have opened : withoutSlash true (c :: (rest ++ '/' :: more)) = rest ++ '/' :: more := by
          rw [withoutSlash, List.dropWhile_cons_of_neg (by rw [noGap]; decide)]
          exact if_pos slash
        rw [List.cons_append, opened, splitPath, List.splitOnP_append_cons _ _ rfl, stackOf]
        exact congrArg List.reverse (addSegments_append follows [] _)
  have notEmpty : (text ++ '/' :: more).isEmpty = false := by
    simp
  rw [pathOf, web.special, notEmpty, begun]
  rfl

/-! ### Whole addresses -/

/-- The URL that an authority and segments lead to with a text behind them. -/
def below (scheme : String) (authority : Authority) (stack : List (List Char))
    (text : List Char) : Url :=
  { scheme, user := authority.user, password := authority.password
    host := some authority.host, port := authority.port
    path := .segments
      ((addSegments false stack (splitPath true (pathPart text))).reverse.map String.ofList)
    query := (splitTail scheme (settled text)).2.1
    fragment := (splitTail scheme (settled text)).2.2 }

theorem below_bare {text : List Char} (verbatim : IsVerbatim text)
    (ends : ∀ c ∈ text.getLast?, isOuterBlank c = false) (authority : Authority)
    (stack : List (List Char)) :
    (below scheme authority stack text).query = none ∧
      (below scheme authority stack text).fragment = none := by
  have plain : ∀ c ∈ text, isTail c = false :=
    fun c member => (sign_cases.mp (verbatim.signs c member)).1
  have tail := congrArg Prod.snd (splitTail_of_plain scheme plain)
  rw [← verbatim.settled_eq ends] at tail
  exact ⟨congrArg Prod.fst tail, congrArg Prod.snd tail⟩

theorem slash_of_rest (web : IsWeb scheme) {text : List Char}
    (plain : ∀ c ∈ text, isTail c = false) :
    ∀ c ∈ (text.dropWhile (!endsAuthority scheme ·)).head?, isSlash true c = true := by
  intro c first
  have ended := List.head?_dropWhile_not (!endsAuthority scheme ·) text
  rw [first] at ended
  have inText := (List.dropWhile_sublist _).mem (List.mem_of_head? first)
  simpa [endsAuthority_cases web, plain c inText] using ended

theorem no_backslash_in_authority (web : IsWeb scheme) (text : List Char) :
    '\\' ∉ text.takeWhile (!endsAuthority scheme ·) := by
  intro member
  have goesOn := List.mem_takeWhile_imp member
  rw [endsAuthority_cases web] at goesOn
  cases goesOn

theorem withAuthority?_slash (web : IsWeb scheme) {text : List Char}
    (plain : ∀ c ∈ text, isTail c = false) (more : List Char) :
    withAuthority? scheme (text ++ '/' :: settled more) =
      (authorityOf? scheme (text.takeWhile (!endsAuthority scheme ·)) true).map fun read =>
        below scheme read.1 (stackOf (text.dropWhile (!endsAuthority scheme ·))) more := by
  have ends : (!endsAuthority scheme '/') = false := by
    rw [endsAuthority_cases web]
    rfl
  have split : splitBefore (endsAuthority scheme) (text ++ '/' :: settled more) =
      (text.takeWhile (!endsAuthority scheme ·),
        text.dropWhile (!endsAuthority scheme ·) ++ '/' :: settled more) :=
    Prod.ext (takeWhile_stop ends _ _) (dropWhile_stop ends _ _)
  have follows : (!(text.dropWhile (!endsAuthority scheme ·) ++ '/' :: settled more).isEmpty) =
      true := by
    simp
  have tail : splitTail scheme (text.dropWhile (!endsAuthority scheme ·) ++ '/' :: settled more) =
      (text.dropWhile (!endsAuthority scheme ·) ++ '/' :: pathPart more,
        (splitTail scheme (settled more)).2) := by
    have plainSlash : ∀ c ∈ text.dropWhile (!endsAuthority scheme ·) ++ ['/'], isTail c = false := by
      rw [List.forall_mem_append]
      refine ⟨fun c member => plain c ((List.dropWhile_sublist _).mem member), fun c member => ?_⟩
      rw [List.mem_singleton.mp member]
      rfl
    have cut := splitTail_append scheme plainSlash (settled more)
    rw [List.append_assoc, List.append_assoc] at cut
    exact cut
  unfold withAuthority?
  rw [split]
  dsimp only
  rw [follows]
  cases read : authorityOf? scheme (text.takeWhile (!endsAuthority scheme ·)) true with
  | none => rfl
  | some found =>
      obtain ⟨authority, rest⟩ := found
      obtain ⟨rfl, -, -⟩ := authorityOf?_special web (no_backslash_in_authority web text) read
      simp only [Option.bind_eq_bind, Option.bind_some, List.nil_append, tail,
        pathOf_slash web (slash_of_rest web plain)]
      rfl

theorem withAuthority?_plain (web : IsWeb scheme) {text : List Char}
    (plain : ∀ c ∈ text, isTail c = false) {url : Url}
    (found : withAuthority? scheme text = some url) :
    ∃ authority, authorityOf? scheme (text.takeWhile (!endsAuthority scheme ·)) true =
        some (authority, []) ∧
      url =
        { scheme, user := authority.user, password := authority.password
          host := some authority.host, port := authority.port
          path := pathOf scheme (text.dropWhile (!endsAuthority scheme ·))
          query := none, fragment := none } := by
  obtain ⟨⟨authority, pathStart⟩, read, made⟩ := Option.bind_eq_some_iff.mp found
  obtain ⟨rfl, -, read⟩ :=
    authorityOf?_special web (no_backslash_in_authority web text) read
  have plainRest : ∀ c ∈ text.dropWhile (!endsAuthority scheme ·), isTail c = false :=
    fun c member => plain c ((List.dropWhile_sublist _).mem member)
  simp only [List.nil_append, splitTail_of_plain scheme plainRest] at made
  exact ⟨authority, read, (Option.some.inj made).symm⟩

theorem file?_scheme {text : List Char} {url : Url} (read : file? text = some url) :
    url.scheme = "file" := by
  have onHost (host : Host) (text : List Char) : (fileOn host text).scheme = "file" := by
    unfold fileOn
    dsimp only
    split
    · split <;> rfl
    · rfl
  unfold file? at read
  split at read
  · split at read
    · cases read
      rfl
    · split at read
      · split at read
        · cases read
          rfl
        · dsimp only at read
          split at read
          · cases read
            rfl
          · split at read
            · cases read
              rfl
            · obtain ⟨host, _, read⟩ := Option.bind_eq_some_iff.mp read
              cases read
              split
              · rfl
              · exact onHost _ _
      · cases read
        rfl
  · cases read
    rfl

theorem withAuthority?_scheme {text : List Char} {url : Url}
    (read : withAuthority? scheme text = some url) : url.scheme = scheme := by
  obtain ⟨found, _, read⟩ := Option.bind_eq_some_iff.mp read
  cases read
  rfl

theorem ownScheme?_scheme {text : List Char} {url : Url}
    (read : ownScheme? scheme text = some url) : url.scheme = scheme := by
  unfold ownScheme? at read
  split at read
  · exact withAuthority?_scheme read
  · dsimp only at read
    split at read <;>
    · cases read
      rfl

theorem parse?_web {base : String} {url : Url} (parsed : parse? base = some url)
    (web : IsWeb url.scheme) :
    ∃ rest, splitScheme? (trimmed base) = some (url.scheme, rest) ∧
      withAuthority? url.scheme ((withoutGaps rest).dropWhile (isSlash true)) = some url := by
  obtain ⟨⟨scheme, rest⟩, split, read⟩ := Option.bind_eq_some_iff.mp parsed
  dsimp only at read
  split at read
  · exact absurd (file?_scheme read) web.ne_file
  · split at read
    · cases withAuthority?_scheme read
      exact ⟨rest, split, read⟩
    · rename_i own
      rw [ownScheme?_scheme read] at web
      exact absurd web.special own

theorem parse?_slash {front rest : List Char}
    (split : splitScheme? (front.dropWhile isOuterBlank) = some (scheme, rest)) (web : IsWeb scheme)
    (opened : (withoutGaps rest).dropWhile (isSlash true) ≠ []) (text : List Char) :
    parse? (String.ofList (front ++ '/' :: text)) =
      withAuthority? scheme ((withoutGaps rest).dropWhile (isSlash true) ++ '/' :: settled text) := by
  have gapless : withoutGaps (rest ++ '/' :: trimmedEnd text) =
      withoutGaps rest ++ '/' :: settled text := by
    rw [withoutGaps_append]
    rfl
  have kept : (withoutGaps rest ++ '/' :: settled text).dropWhile (isSlash true) =
      (withoutGaps rest).dropWhile (isSlash true) ++ '/' :: settled text := by
    rw [List.dropWhile_append, if_neg (by simpa using opened)]
  unfold parse?
  rw [trimmed_slash, splitScheme?_slash, split]
  simp only [Option.map_some, Option.bind_eq_bind, Option.bind_some, web.ne_file, if_false,
    web.special, if_true, gapless, kept]

theorem ordinary_of_isTail {c : Char} (tail : isTail c = true) :
    isGap c = false ∧ isSlash true c = false ∧ isOuterBlank c = false := by
  simp only [isTail, Bool.or_eq_true, decide_eq_true_eq] at tail
  rcases tail with rfl | rfl <;> decide

theorem no_tail_of_withAuthority? (web : IsWeb scheme) {text : List Char} {url : Url}
    (read : withAuthority? scheme text = some url) (noQuery : url.query = none)
    (noFragment : url.fragment = none) : ∀ c ∈ text, isTail c = false := by
  obtain ⟨⟨authority, pathStart⟩, found, made⟩ := Option.bind_eq_some_iff.mp read
  obtain ⟨rfl, -, -⟩ :=
    authorityOf?_special web (no_backslash_in_authority web text) found
  cases made
  have plain := no_tail_of_splitTail (Prod.ext noQuery noFragment)
  intro c member
  by_contra tail
  have ends : (!endsAuthority scheme c) = false := by
    rw [endsAuthority_cases web, eq_true_of_ne_false tail, Bool.or_true]
    rfl
  exact tail (plain c (mem_dropWhile member ends))

theorem not_slashes_of_withAuthority? (web : IsWeb scheme) {text : List Char} {url : Url}
    (read : withAuthority? scheme (text.dropWhile (isSlash true)) = some url) :
    ¬ ∀ c ∈ text, isSlash true c = true := by
  intro slashes
  rw [List.dropWhile_eq_nil_iff.mpr slashes] at read
  obtain ⟨_, authority, _⟩ := Option.bind_eq_some_iff.mp read
  exact (authorityOf?_special web List.not_mem_nil authority).2.1 rfl

theorem exists_blanks (text : List Char) :
    ∃ blanks, text = trimmedEnd text ++ blanks ∧ ∀ c ∈ blanks, isOuterBlank c = true := by
  refine ⟨(text.reverse.takeWhile isOuterBlank).reverse, ?_, fun c member => ?_⟩
  · rw [trimmedEnd, ← List.reverse_append, List.takeWhile_append_dropWhile, List.reverse_reverse]
  · exact List.mem_takeWhile_imp (List.mem_reverse.mp member)

theorem trimmedEnd_dropWhile {text : List Char}
    (ends : ∀ c ∈ text.getLast?, isOuterBlank c = false) :
    trimmedEnd (text.dropWhile isOuterBlank) = text.dropWhile isOuterBlank := by
  refine trimmedEnd_eq_iff.mpr fun c last => ends c ?_
  rw [← List.takeWhile_append_dropWhile (p := isOuterBlank) (l := text), List.getLast?_append, last]
  rfl

theorem splitScheme?_slashes {text rest : List Char} {count : Nat}
    (split : splitScheme? (text ++ List.replicate count '/') = some (scheme, rest)) :
    ∃ before, splitScheme? text = some (scheme, before) ∧
      before ++ List.replicate count '/' = rest := by
  cases count with
  | zero =>
      rw [List.replicate_zero, List.append_nil] at split
      exact ⟨rest, split, List.append_nil rest⟩
  | succ count =>
      rw [List.replicate_succ, splitScheme?_slash] at split
      obtain ⟨⟨_, before⟩, found, same⟩ := Option.map_eq_some_iff.mp split
      cases same
      exact ⟨before, found, rfl⟩

/-- What an address without a query and a fragment opens with, before the slashes at its end. -/
theorem opening_of_parse? {base : String} {url : Url} {front : List Char} {count : Nat}
    (same : base.toList = front ++ List.replicate count '/') (parsed : parse? base = some url)
    (web : IsWeb url.scheme) (noQuery : url.query = none) (noFragment : url.fragment = none) :
    ∃ rest, splitScheme? (front.dropWhile isOuterBlank) = some (url.scheme, rest) ∧
      (∀ c ∈ rest, isTail c = false) ∧
      (withoutGaps rest).dropWhile (isSlash true) ≠ [] ∧
      ((∀ c ∈ base.toList.getLast?, isOuterBlank c = false) →
        withAuthority? url.scheme
          ((withoutGaps (rest ++ List.replicate count '/')).dropWhile (isSlash true)) = some url) := by
  obtain ⟨read, split, found⟩ := parse?_web parsed web
  have whole : base.toList.dropWhile isOuterBlank =
      front.dropWhile isOuterBlank ++ List.replicate count '/' := by
    rw [same]
    cases count with
    | zero => rw [List.replicate_zero, List.append_nil, List.append_nil]
    | succ count => exact dropWhile_stop rfl _ _
  obtain ⟨blanks, parts, blank⟩ := exists_blanks (base.toList.dropWhile isOuterBlank)
  have trimmedBase : trimmed base = trimmedEnd (base.toList.dropWhile isOuterBlank) := rfl
  rw [trimmedBase] at split
  have longer := splitScheme?_append split blanks
  rw [← parts, whole] at longer
  obtain ⟨rest, splitFront, behind⟩ := splitScheme?_slashes longer
  have mem_read {c : Char} (member : c ∈ read) (noGap : isGap c = false) : c ∈ withoutGaps read :=
    List.mem_filter.mpr ⟨member, by rw [noGap]; rfl⟩
  refine ⟨rest, splitFront, ?_, ?_, ?_⟩
  · intro c member
    rw [← Bool.not_eq_true]
    intro tail
    obtain ⟨noGap, noSlash, noBlank⟩ := ordinary_of_isTail tail
    have listed : c ∈ read ++ blanks := behind ▸ List.mem_append_left _ member
    rcases List.mem_append.mp listed with inRead | inBlanks
    · have plain := no_tail_of_withAuthority? web found noQuery noFragment c
        (mem_dropWhile (mem_read inRead noGap) noSlash)
      cases plain.symm.trans tail
    · cases noBlank.symm.trans (blank c inBlanks)
  · intro none
    refine not_slashes_of_withAuthority? web found fun c member => ?_
    have listed : c ∈ withoutGaps (rest ++ List.replicate count '/') := by
      rw [behind, withoutGaps_append]
      exact List.mem_append_left _ member
    rw [withoutGaps_append, List.mem_append] at listed
    rcases listed with inRest | inSlashes
    · exact List.dropWhile_eq_nil_iff.mp none c inRest
    · rw [List.eq_of_mem_replicate (List.mem_filter.mp inSlashes).1]
      rfl
  · intro ends
    have none : blanks = [] := by
      rw [trimmedEnd_dropWhile ends] at parts
      exact List.self_eq_append_right.mp parts
    rw [behind, none, List.append_nil]
    exact found

/-! ### Places below an address -/

theorem pathText_segments {url : Url} {segments : List (List Char)}
    (same : url.path = .segments (segments.map String.ofList)) :
    url.pathText.toList = segments.flatMap ('/' :: ·) := by
  rw [pathText, same]
  dsimp only
  rw [String.toList_join, List.map_map, List.flatMap_map]
  refine List.flatMap_congr fun segment _ => ?_
  simp

theorem isVerbatim_slashes (count : Nat) : IsVerbatim (List.replicate count '/') := by
  have empty : IsVerbatim [] := by
    refine ⟨fun _ member => absurd member List.not_mem_nil, fun segment listed => ?_⟩
    rw [List.splitOn_nil, List.mem_singleton] at listed
    subst listed
    exact ⟨rfl, by decide, by decide⟩
  induction count with
  | zero => exact empty
  | succ count ih => exact isVerbatim_slash.mpr ⟨empty, ih⟩

theorem pathPart_slashes (count : Nat) :
    pathPart (List.replicate count '/') = List.replicate count '/' := by
  refine (isVerbatim_slashes count).pathPart_eq fun c last => ?_
  rw [List.eq_of_mem_replicate (List.mem_of_getLast? last)]
  rfl

theorem splitPath_slashes (count : Nat) :
    splitPath true (List.replicate count '/') = List.replicate (count + 1) [] := by
  induction count with
  | zero => rfl
  | succ count ih =>
      have slash : isSlash true '/' = true := rfl
      rw [List.replicate_succ, splitPath, List.splitOnP_cons_eq_if_modifyHead, if_pos slash,
        ← splitPath, ih]
      rfl

theorem addSegments_empty (before : List (List Char)) (count : Nat) :
    addSegments false before (List.replicate count []) = List.replicate count [] ++ before := by
  induction count generalizing before with
  | zero => rfl
  | succ count ih =>
      have kept : addSegments false before (List.replicate (count + 1) []) =
          addSegments false ([] :: before) (List.replicate count []) := rfl
      rw [kept, ih, List.replicate_succ', List.append_assoc]
      rfl

/-- Slashes at the end of an address are the end of its path. -/
theorem pathText_below_slashes (scheme : String) (authority : Authority)
    (stack : List (List Char)) (count : Nat) :
    (below scheme authority stack (List.replicate count '/')).pathText.toList =
      stack.reverse.flatMap ('/' :: ·) ++ List.replicate (count + 1) '/' := by
  have slashes : (List.replicate (count + 1) []).flatMap ('/' :: ·) =
      List.replicate (count + 1) '/' := by
    simp [List.flatMap_replicate]
  rw [pathText_segments rfl, pathPart_slashes, splitPath_slashes, addSegments_empty,
    List.reverse_append, List.reverse_replicate, List.flatMap_append, slashes]

/-- Whether paths differ at most in slashes at their ends. -/
def SamePlace (path other : String) : Prop :=
  ∃ few many, path.toList ++ List.replicate few '/' = other.toList ++ List.replicate many '/'

theorem samePlace_below_slashes (scheme : String) (authority : Authority)
    (stack : List (List Char)) (count : Nat) :
    SamePlace (below scheme authority stack (List.replicate count '/')).pathText
      (below scheme authority stack []).pathText := by
  have none := pathText_below_slashes scheme authority stack 0
  rw [List.replicate_zero] at none
  refine ⟨0, count, ?_⟩
  rw [pathText_below_slashes, none, List.replicate_zero, List.append_nil, List.append_assoc,
    List.replicate_append_replicate, Nat.add_comm, Nat.zero_add]

theorem below_eq_of_bare {authority : Authority} {stack : List (List Char)} {text : List Char}
    (noQuery : (below scheme authority stack text).query = none)
    (noFragment : (below scheme authority stack text).fragment = none) :
    below scheme authority stack text =
      { below scheme authority stack [] with path := (below scheme authority stack text).path } := by
  have queryless : (splitTail scheme (settled text)).2.1 = none := noQuery
  have fragmentless : (splitTail scheme (settled text)).2.2 = none := noFragment
  conv_lhs => rw [below, queryless, fragmentless]
  rfl

/-- A path and what it is with a slash behind it are the same place. -/
theorem samePlace_pathOf (web : IsWeb scheme) {text : List Char}
    (slashed : ∀ c ∈ text.head?, isSlash true c = true) (authority : Authority) {url : Url}
    (same : url.path = pathOf scheme text) :
    SamePlace url.pathText (below scheme authority (stackOf text) []).pathText := by
  have extended := pathText_below_slashes scheme authority (stackOf text) 0
  rw [List.replicate_zero] at extended
  have opened {segments : List (List Char)}
      (read : segmentsOf scheme (withoutSlash true text) = segments) :
      url.pathText.toList = segments.flatMap ('/' :: ·) := by
    refine pathText_segments ?_
    rw [same, pathOf, web.special, Bool.not_true, Bool.and_false, ← read]
    rfl
  cases text with
  | nil =>
      have read : segmentsOf scheme (withoutSlash true []) = [[]] := by
        rw [segmentsOf, decide_eq_false web.ne_file]
        rfl
      exact ⟨0, 0, by rw [extended, opened read]; rfl⟩
  | cons c rest =>
      have slash := slashed c rfl
      have noGap : isGap c = false := by
        rcases isSlash_cases slash with rfl | rfl <;> rfl
      have read : segmentsOf scheme (withoutSlash true (c :: rest)) =
          (addSegments false [] (splitPath true rest)).reverse := by
        rw [segmentsOf, web.special, decide_eq_false web.ne_file, withoutSlash,
          List.dropWhile_cons_of_neg (by rw [noGap]; decide)]
        dsimp only
        rw [if_pos slash]
      rcases addSegments_eq_climbed [] (splitPath true rest) with ended | dotted
      · rw [ended] at read
        refine ⟨1, 0, ?_⟩
        rw [extended, opened read, stackOf, List.replicate_zero, List.append_nil]
      · rw [dotted] at read
        refine ⟨0, 0, ?_⟩
        rw [extended, opened read, stackOf, List.reverse_cons, List.flatMap_append]
        rfl

/-- How an address is read with a text behind a slash at its end: as what the text leads to below one
authority and the same segments, which are those of the address itself if it does not end with blanks. -/
theorem parse?_below {base : String} {url : Url} {front : List Char} {count : Nat}
    (same : base.toList = front ++ List.replicate count '/') (parsed : parse? base = some url)
    (web : IsWeb url.scheme) (noQuery : url.query = none) (noFragment : url.fragment = none) :
    ∃ (read : Option Authority) (stack : List (List Char)),
      (∀ text, parse? (String.ofList (front ++ '/' :: text)) =
        read.map fun authority => below url.scheme authority stack text) ∧
      ((∀ c ∈ base.toList.getLast?, isOuterBlank c = false) →
        ∃ authority, read = some authority ∧
          url = { below url.scheme authority stack [] with path := url.path } ∧
          SamePlace url.pathText (below url.scheme authority stack []).pathText) := by
  obtain ⟨rest, split, plain, opened, itself⟩ :=
    opening_of_parse? same parsed web noQuery noFragment
  generalize opens : (withoutGaps rest).dropWhile (isSlash true) = opening at opened
  have plainOpening : ∀ c ∈ opening, isTail c = false := by
    intro c member
    rw [← opens] at member
    exact plain c (List.mem_filter.mp ((List.dropWhile_sublist _).mem member)).1
  have reads (text : List Char) : parse? (String.ofList (front ++ '/' :: text)) =
      ((authorityOf? url.scheme (opening.takeWhile (!endsAuthority url.scheme ·)) true).map
        Prod.fst).map fun authority =>
          below url.scheme authority (stackOf (opening.dropWhile (!endsAuthority url.scheme ·)))
            text := by
    rw [parse?_slash split web (opens ▸ opened), opens, withAuthority?_slash web plainOpening,
      Option.map_map]
    rfl
  refine ⟨_, _, reads, fun ends => ?_⟩
  have found := itself ends
  cases count with
  | zero =>
      rw [List.replicate_zero, List.append_nil, opens] at found
      obtain ⟨authority, read, made⟩ := withAuthority?_plain web plainOpening found
      refine ⟨authority, by rw [read]; rfl, ?_, ?_⟩
      · rw [congrArg Url.path made]
        exact made
      · exact samePlace_pathOf web (slash_of_rest web plainOpening) authority
          (congrArg Url.path made)
  | succ count =>
      have whole : base = String.ofList (front ++ '/' :: List.replicate count '/') := by
        rw [← String.toList_inj, same, String.toList_ofList, List.replicate_succ]
      rw [whole, reads] at parsed
      obtain ⟨authority, read, made⟩ := Option.map_eq_some_iff.mp parsed
      rw [← made] at noQuery noFragment
      have itself := below_eq_of_bare noQuery noFragment
      have samePlace := samePlace_below_slashes url.scheme authority
        (stackOf (opening.dropWhile (!endsAuthority url.scheme ·))) count
      rw [made] at itself samePlace
      exact ⟨authority, read, itself, samePlace⟩

end StagedRuns.Url
