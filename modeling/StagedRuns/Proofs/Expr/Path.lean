import StagedRuns.Proofs.Expr.Comparison
import StagedRuns.Proofs.Expr.Completeness
import StagedRuns.Proofs.Expr.Members
import StagedRuns.Proofs.Expr.Scanning
import StagedRuns.Webhook.Context

/-!
Paths into a document. A path with dots and a path with brackets and quotes find the same part of
the document, or fail at the same key, except that three keywords are no names behind a dot.
-/

namespace StagedRuns

/-! ### Reading a path -/

namespace Expr

/-- Whether some tokens are read as one more selection, and at how many levels below the limit. -/
def Selects (levels : Nat) (tokens : List Token) (build : Tree → Tree) : Prop :=
  ∀ fuel object depth rest, 16 ≤ fuel → depth + levels ≤ maxDepth → Phrase.primary.Ends rest →
    readSelections (fuel + 1) object ⟨tokens ++ rest, depth⟩ =
      readSelections fuel (build object) ⟨rest, depth + 1⟩

theorem descend_eq_ok {depth : Nat} (shallow : depth < maxDepth) (tokens : List Token) :
    Cursor.descend ⟨tokens, depth⟩ = .ok ⟨tokens, depth + 1⟩ :=
  if_pos shallow

theorem selects_member {token : Token} {key : String} (names : FieldName token key) :
    Selects 1 [.dot, token] (Tree.member · key) := by
  intro fuel object depth rest _ shallow ends
  have uncalled := ends.peek_ne (Nat.le_refl Token.openParen.looseness) (depth + 1)
  simp only [List.cons_append, List.nil_append]
  rw [readSelections]
  simp only [Cursor.peek_cons, Cursor.advance_cons, descend_eq_ok (Nat.lt_of_succ_le shallow),
    Cursor.field_cons names, Result.ok_bind, if_neg uncalled]

/-- The text in the brackets is an expression of its own, one level deeper. -/
theorem selects_index (key : String) :
    Selects 2 [.openBracket, .text key, .closeBracket] (Tree.index · (.text key)) := by
  intro fuel object depth rest fueled within _
  have shallow : depth < maxDepth := by omega
  have derived : Derives .choice [.text key] (.text key) :=
    .unchosen (.operand (.operand (.operand (.operand (.operand (.unapplied (.object
      (.literal (.text key)))))))))
  obtain ⟨need, bound, reads⟩ := derived.completes.readable
  have inside : readChoice fuel ⟨.text key :: .closeBracket :: rest, depth + 1⟩ =
      .ok (.text key, ⟨.closeBracket :: rest, depth + 1⟩) := by
    -- what is derived takes no more levels than it has tokens, which is one
    refine (reads fuel (depth + 1) _ fueled (Phrase.ends_cons (by decide))).trans (if_pos ?_)
    rw [List.length_singleton, Phrase.spare] at bound
    omega
  simp only [List.cons_append, List.nil_append]
  rw [readSelections]
  simp only [Cursor.peek_cons, Cursor.advance_cons, descend_eq_ok shallow, inside,
    Cursor.expect_cons, Result.ok_bind]

/-- Whether the tokens of every key begin with one that a selection goes on with. -/
def Behind (tokens : String → List Token) : Prop :=
  ∀ key, ∃ token more, tokens key = token :: more ∧ Token.openParen.looseness < token.looseness

section

variable {levels fuel depth : Nat} {tokens : String → List Token} {build : Tree → String → Tree}
  {keys : List String} {rest : List Token}

theorem Behind.length_le (behind : Behind tokens) (keys : List String) :
    keys.length ≤ (keys.flatMap tokens).length := by
  induction keys with
  | nil => exact Nat.zero_le _
  | cons key keys ih =>
      obtain ⟨token, more, spelled, _⟩ := behind key
      rw [List.flatMap_cons, spelled, List.length_append, List.length_cons, List.length_cons]
      omega

theorem Behind.ends (behind : Behind tokens) (ends : Phrase.primary.Ends rest) :
    Phrase.primary.Ends (keys.flatMap tokens ++ rest) := by
  cases keys with
  | nil => exact ends
  | cons key keys =>
      obtain ⟨token, more, spelled, looser⟩ := behind key
      rw [List.flatMap_cons, spelled]
      exact looser

theorem readSelections_path (behind : Behind tokens)
    (each : ∀ key ∈ keys, Selects levels (tokens key) (build · key)) (fueled : 16 ≤ fuel)
    (shallow : depth + keys.length + levels ≤ maxDepth + 1) (ends : Phrase.primary.Ends rest)
    (object : Tree) :
    readSelections (fuel + keys.length) object ⟨keys.flatMap tokens ++ rest, depth⟩ =
      readSelections fuel (keys.foldl build object) ⟨rest, depth + keys.length⟩ := by
  induction keys generalizing object depth with
  | nil => rfl
  | cons key keys ih =>
      rw [List.length_cons] at shallow
      have first := each key List.mem_cons_self (fuel + keys.length) object depth
        (keys.flatMap tokens ++ rest) (by omega) (by omega) (behind.ends ends)
      have others := ih (fun key member => each key (List.mem_cons_of_mem _ member))
        (show depth + 1 + keys.length + levels ≤ maxDepth + 1 by omega) (build object key)
      rw [List.flatMap_cons, List.append_assoc, List.length_cons, ← Nat.add_assoc, first, others,
        List.foldl_cons, Nat.add_assoc depth, Nat.add_comm 1]

end

/-! ### Around a path -/

/-- A reading that comes to the end of the input. -/
def toEnd (depth : Nat) (reading : Except SyntaxFault Tree) : Except SyntaxFault (Tree × Cursor) :=
  reading >>= fun tree => .ok (tree, ⟨[.endOfInput], depth⟩)

section

variable {fuel depth : Nat} {tokens : List Token} {reading : Except SyntaxFault Tree}

theorem readTier_toEnd {tier : Tier}
    (read : readOperand (fuel + 1) tier ⟨tokens, depth⟩ = toEnd depth reading) :
    readTier (fuel + 2) tier ⟨tokens, depth⟩ = toEnd depth reading := by
  have unchained (tree : Tree) : readChain (fuel + 1) tier tree ⟨[.endOfInput], depth⟩ =
      .ok (tree, ⟨[.endOfInput], depth⟩) := by
    cases tier <;> rfl
  rw [readTier, read]
  cases reading with
  | error fault => rfl
  | ok tree =>
      change (readChain (fuel + 1) tier tree ⟨[.endOfInput], depth⟩ >>= fun found =>
        Except.ok (found.1, found.2.restore depth)) = _
      rw [unchained]
      rfl

theorem readChoice_toEnd (shallow : depth < maxDepth)
    (read : readUnary fuel ⟨tokens, depth + 1⟩ = toEnd (depth + 1) reading) :
    readChoice (fuel + 11) ⟨tokens, depth⟩ = toEnd depth reading := by
  have tiered : readTier (fuel + 10) .either ⟨tokens, depth + 1⟩ = toEnd (depth + 1) reading := by
    refine readTier_toEnd (readTier_toEnd (readTier_toEnd (readTier_toEnd (readTier_toEnd ?_))))
    exact read
  rw [readChoice, descend_eq_ok shallow, Result.ok_bind, tiered]
  cases reading <;> rfl

theorem readUnary_toEnd {word : String} {deep : Nat} (ends : Phrase.primary.Ends tokens)
    (read : readSelections (fuel + 1) (.name word) ⟨tokens, depth⟩ = toEnd deep reading) :
    readUnary (fuel + 3) ⟨.name word :: tokens, depth⟩ = toEnd depth reading := by
  have uncalled := ends.peek_ne (Nat.le_refl Token.openParen.looseness) depth
  have named : readPrimary (fuel + 1) ⟨.name word :: tokens, depth⟩ =
      .ok (.name word, ⟨tokens, depth⟩) := by
    rw [readPrimary]
    exact if_neg uncalled
  change readSelected (fuel + 2) ⟨.name word :: tokens, depth⟩ = _
  rw [readSelected, named, Result.ok_bind]
  dsimp only
  rw [read]
  cases reading <;> rfl

end

theorem parseTokens_path {levels : Nat} {tokens : String → List Token}
    {build : Tree → String → Tree} {keys : List String} {rest : List Token} {word : String}
    {reading : Except SyntaxFault Tree} (behind : Behind tokens)
    (each : ∀ key ∈ keys, Selects levels (tokens key) (build · key))
    (shallow : keys.length + levels ≤ maxDepth) (ends : Phrase.primary.Ends rest)
    (last : ∀ fuel, readSelections (fuel + 1) (keys.foldl build (.name word))
      ⟨rest, 1 + keys.length⟩ = toEnd (1 + keys.length) reading) :
    parseTokens (.name word :: (keys.flatMap tokens ++ rest)) = reading := by
  -- every key has a token, so the fuel lasts for a step at each of them
  have long := behind.length_le keys
  obtain ⟨fuel, enough⟩ : ∃ fuel, parseFuel (.name word :: (keys.flatMap tokens ++ rest)) =
      fuel + keys.length + 16 + 13 := by
    refine ⟨parseFuel (.name word :: (keys.flatMap tokens ++ rest)) - (keys.length + 29), ?_⟩
    rw [parseFuel, List.length_cons, List.length_append]
    omega
  have selections : readSelections (fuel + keys.length + 16) (.name word)
      ⟨keys.flatMap tokens ++ rest, 1⟩ = toEnd (1 + keys.length) reading := by
    rw [Nat.add_right_comm, readSelections_path behind each (by omega) (by omega) ends]
    exact last (fuel + 15)
  have read : readChoice (fuel + keys.length + 16 + 13)
      ⟨.name word :: (keys.flatMap tokens ++ rest), 0⟩ = toEnd 0 reading :=
    readChoice_toEnd (by decide) (readUnary_toEnd (behind.ends ends) selections)
  unfold parseTokens
  rw [enough, read]
  cases reading <;> rfl

/-! ### Dots and brackets -/

/-- The keywords that are no names of fields. -/
def literals : List String :=
  ["null", "true", "false"]

theorem fieldName_ofWord {key : String} (free : key ∉ literals) :
    FieldName (Token.ofWord key) key := by
  simp only [literals, List.mem_cons, List.not_mem_nil, or_false, not_or] at free
  obtain ⟨notNull, notTrue, notFalse⟩ := free
  unfold Token.ofWord
  rw [if_neg notNull, if_neg notTrue, if_neg notFalse]
  by_cases isWithin : key = "in"
  · rw [if_pos isWithin, isWithin]
    exact .within
  · rw [if_neg isWithin]
    exact .name key

theorem field_literal {word : String} (literal : word ∈ literals) (rest : List Token)
    (depth : Nat) :
    Cursor.field ⟨Token.ofWord word :: rest, depth⟩ =
      .error (.unexpected (Token.ofWord word)) := by
  simp only [literals, List.mem_cons, List.not_mem_nil, or_false] at literal
  rcases literal with rfl | rfl | rfl <;> rfl

def dots (key : String) : List Token :=
  [.dot, Token.ofWord key]

def brackets (key : String) : List Token :=
  [.openBracket, .text key, .closeBracket]

theorem behind_dots : Behind dots :=
  fun _ => ⟨.dot, _, rfl, by decide⟩

theorem behind_brackets : Behind brackets :=
  fun _ => ⟨.openBracket, _, rfl, by decide⟩

section

variable {keys : List String}

theorem parseTokens_dots (free : ∀ key ∈ keys, key ∉ literals) (short : keys.length ≤ 99) :
    parseTokens (.name "hook" :: (keys.flatMap dots ++ [.endOfInput])) =
      .ok (keys.foldl .member (.name "hook")) :=
  parseTokens_path behind_dots
    (fun key member => selects_member (fieldName_ofWord (free key member)))
    (Nat.succ_le_succ short) (Phrase.ends_cons (by decide)) fun _ => rfl

theorem parseTokens_brackets (short : keys.length ≤ 98) :
    parseTokens (.name "hook" :: (keys.flatMap brackets ++ [.endOfInput])) =
      .ok (keys.foldl (fun object key => .index object (.text key)) (.name "hook")) :=
  parseTokens_path behind_brackets (fun key _ => selects_index key)
    (Nat.add_le_add_right short 2) (Phrase.ends_cons (by decide)) fun _ => rfl

theorem parseTokens_literal (free : ∀ key ∈ keys, key ∉ literals) {word : String}
    (literal : word ∈ literals) (short : keys.length ≤ 98) (rest : List Token) :
    parseTokens (.name "hook" :: (keys.flatMap dots ++ .dot :: Token.ofWord word :: rest)) =
      .error (.unexpected (Token.ofWord word)) := by
  refine parseTokens_path behind_dots
    (fun key member => selects_member (fieldName_ofWord (free key member)))
    (Nat.le_succ_of_le (Nat.succ_le_succ short)) (Phrase.ends_cons (by decide)) ?_
  intro fuel
  have shallow : 1 + keys.length < maxDepth := by
    change 1 + keys.length < 100
    omega
  rw [readSelections]
  simp only [Cursor.peek_cons, descend_eq_ok shallow, Result.ok_bind, Cursor.advance_cons,
    field_literal literal]
  rfl

end

/-! ### The texts of a path -/

def pathText (spell : String → String) (keys : List String) : String :=
  "hook" ++ String.join (keys.map spell)

def dotted (keys : List String) : String :=
  pathText (fun key => "." ++ key) keys

def quoted (keys : List String) : String :=
  pathText (fun key => "['" ++ key ++ "']") keys

theorem isName_hook : isName "hook" = true := by
  decide

theorem scan_pathText {spell : String → String} {tokens : String → List Token} {keys : List String}
    (begins : ∀ key, ∃ c rest, (spell key).toList = c :: rest ∧ continuesName c = false)
    (each : ∀ key ∈ keys, ∀ text words, (∀ c ∈ text.head?, continuesName c = false) →
      Scans text words → Scans ((spell key).toList ++ text) (tokens key ++ words)) :
    scan (pathText spell keys) = .ok (.name "hook" :: (keys.flatMap tokens ++ [.endOfInput])) := by
  have ends : ∀ keys : List String,
      ∀ c ∈ (String.join (keys.map spell)).toList.head?, continuesName c = false := by
    intro keys c first
    cases keys with
    | nil => simp at first
    | cons key keys =>
        obtain ⟨d, rest, spelled, stops⟩ := begins key
        rw [List.map_cons, String.toList_join, List.flatMap_cons, spelled] at first
        cases first
        exact stops
  have behind : Scans (String.join (keys.map spell)).toList (keys.flatMap tokens) := by
    induction keys with
    | nil =>
        rw [List.map_nil, String.toList_join]
        exact .nil
    | cons key keys ih =>
        have others := ih fun key member => each key (List.mem_cons_of_mem _ member)
        have first := each key List.mem_cons_self _ _ (ends keys) others
        rw [String.toList_join] at first ⊢
        exact first
  have scans : Scans (pathText spell keys).toList (.name "hook" :: keys.flatMap tokens) := by
    rw [pathText, String.toList_append]
    exact .name isName_hook (ends keys) behind
  exact scan_of_scans scans

section

variable {keys : List String}

theorem scan_dotted (named : ∀ key ∈ keys, isName key = true) :
    scan (dotted keys) = .ok (.name "hook" :: (keys.flatMap dots ++ [.endOfInput])) := by
  refine scan_pathText ?_ ?_
  · intro key
    refine ⟨'.', key.toList, ?_, by decide +kernel⟩
    rw [String.toList_append]
    rfl
  · intro key member text words ends scans
    rw [String.toList_append]
    exact .sign rfl (by decide) (.name (named key member) ends scans)

theorem scan_quoted (named : ∀ key ∈ keys, isName key = true) :
    scan (quoted keys) = .ok (.name "hook" :: (keys.flatMap brackets ++ [.endOfInput])) := by
  refine scan_pathText ?_ ?_
  · intro key
    refine ⟨'[', '\'' :: (key.toList ++ ['\'', ']']), ?_, by decide +kernel⟩
    rw [String.toList_append, String.toList_append, List.append_assoc]
    rfl
  · intro key member text words _ scans
    have closed : Scans (']' :: text) (.closeBracket :: words) := .sign rfl (by decide) scans
    have inside := Scans.quoted (named key member) closed
    rw [String.toList_append, String.toList_append, List.append_assoc, List.append_assoc]
    exact .sign rfl (by decide) inside

end

/-! ### Following a path -/

inductive Finding where
  | found (part : Json)
  | missing (key : String)
  /-- The key is looked for in something that has no keys. -/
  | barred (key : String) (part : Json)

/-- The part of a document along some keys. Of the members with one key the last counts. -/
def along : Json → List String → Finding
  | part, [] => .found part
  | .object members, key :: rest =>
      match members.reverse.lookup key with
      | some member => along member rest
      | none => .missing key
  | part, key :: _ => .barred key part

/-- The value or the failure that a finding makes, given the words for what has no keys. -/
def Finding.outcome (cause : String → Kind → Mismatch) : Finding → Except Fault Value
  | .found part => .ok (.ofJson part)
  | .missing key => .error (.missingKey key)
  | .barred key part => .error (.mismatch (cause key (Value.ofJson part).kind))

theorem foldlM_along {follow : Value → String → Except Fault Value}
    {cause : String → Kind → Mismatch}
    (inMap : ∀ entries key, follow (.map entries) key = outcome ((Value.map entries).select key))
    (elsewhere : ∀ value key, value.kind ≠ .map →
      follow value key = .error (.mismatch (cause key value.kind)))
    (document : Json) (keys : List String) :
    keys.foldlM follow (.ofJson document) = (along document keys).outcome cause := by
  induction keys generalizing document with
  | nil => cases document <;> rfl
  | cons key keys ih =>
      rw [List.foldlM_cons]
      cases document with
      | object members =>
          rw [Value.ofJson, inMap, Value.select_map, lookup_ofMembers, along]
          cases members.reverse.lookup key with
          | some member => exact ih member
          | none => rfl
      | null | bool | number | string | illegible | array =>
          rw [elsewhere _ key (by simp [Value.ofJson, Value.kind])]
          rfl

/-- The value of a tree that was built along some keys is the value of what it was built on,
followed along them. -/
theorem unlimited_foldl {bindings : Bindings} {build : Tree → String → Tree}
    {follow : Value → String → Except Fault Value}
    (each : ∀ tree key, unlimited bindings (build tree key) =
      unlimited bindings tree >>= fun object => follow object key)
    (keys : List String) (tree : Tree) :
    unlimited bindings (keys.foldl build tree) =
      unlimited bindings tree >>= fun object => keys.foldlM follow object := by
  induction keys generalizing tree with
  | nil => simp
  | cons key keys ih =>
      rw [List.foldl_cons, ih, each, bind_assoc]
      simp only [List.foldlM_cons]

theorem height_foldl {build : Tree → String → Tree}
    (each : ∀ tree key, 1 ≤ tree.height → (build tree key).height = tree.height + 1)
    (keys : List String) {tree : Tree} (occupied : 1 ≤ tree.height) :
    (keys.foldl build tree).height = tree.height + keys.length := by
  induction keys generalizing tree with
  | nil => rfl
  | cons key keys ih =>
      have higher := each tree key occupied
      rw [List.foldl_cons, ih (by omega), higher, List.length_cons]
      omega

theorem height_dots (keys : List String) :
    (keys.foldl Tree.member (.name "hook")).height = 1 + keys.length :=
  height_foldl (fun _ _ _ => rfl) keys (Nat.le_refl 1)

theorem height_brackets (keys : List String) :
    (keys.foldl (fun object key => Tree.index object (.text key)) (.name "hook")).height =
      1 + keys.length := by
  refine height_foldl ?_ keys (Nat.le_refl 1)
  intro tree key occupied
  rw [Tree.height, Tree.height, Nat.max_eq_left occupied]

theorem value_of_parse {bindings : Bindings} {text : String} {tree : Tree}
    (parsed : parse text = .ok tree) (shallow : tree.height ≤ maxEvaluationDepth) :
    value bindings text =
      (unlimited bindings tree).mapError fun fault => ⟨text, .evaluation fault⟩ := by
  have free : ((evaluate bindings tree).run 0).1 = unlimited bindings tree :=
    (evaluate_refines bindings tree).exact 0 (by omega)
  unfold value
  rw [parsed]
  dsimp only
  rw [free]
  cases unlimited bindings tree <;> rfl

theorem select_elsewhere {object : Value} (noMap : object.kind ≠ .map) (key : String) :
    outcome (object.select key) = .error (.mismatch (.selection key object.kind)) := by
  cases object with
  | map entries => exact absurd rfl noMap
  | null | bool | number | text | list => rfl

theorem at_elsewhere {object : Value} (noMap : object.kind ≠ .map) (key : String) :
    outcome (object.at (.text key)) = .error (.mismatch (.indexing object.kind .text)) := by
  cases object with
  | map entries => exact absurd rfl noMap
  | null | bool | number | text | list => rfl

theorem unlimited_dots (document : Json) (keys : List String) :
    unlimited (Webhook.Context.ofDocument document).bindings (keys.foldl .member (.name "hook")) =
      (along document keys).outcome .selection := by
  have each (tree : Tree) (key : String) :
      unlimited (Webhook.Context.ofDocument document).bindings (.member tree key) =
        unlimited (Webhook.Context.ofDocument document).bindings tree >>= fun object =>
          outcome (object.select key) := rfl
  rw [unlimited_foldl each]
  exact foldlM_along (fun _ _ => rfl) (fun _ key noMap => select_elsewhere noMap key) document keys

theorem unlimited_brackets (document : Json) (keys : List String) :
    unlimited (Webhook.Context.ofDocument document).bindings
        (keys.foldl (fun object key => .index object (.text key)) (.name "hook")) =
      (along document keys).outcome fun _ kind => .indexing kind .text := by
  have each (tree : Tree) (key : String) :
      unlimited (Webhook.Context.ofDocument document).bindings (.index tree (.text key)) =
        unlimited (Webhook.Context.ofDocument document).bindings tree >>= fun object =>
          outcome (object.at (.text key)) := rfl
  rw [unlimited_foldl each]
  exact foldlM_along (fun _ _ => rfl) (fun _ key noMap => at_elsewhere noMap key) document keys

end Expr

/-! ### Paths into an event -/

namespace Webhook.Context

open StagedRuns.Expr

section

variable (document : Json) {keys : List String}

theorem evaluate_quoted (named : ∀ key ∈ keys, isName key = true) (short : keys.length ≤ 98) :
    (ofDocument document).evaluate (quoted keys) =
      ((along document keys).outcome fun _ kind => .indexing kind .text).mapError
        fun fault => ⟨quoted keys, .evaluation fault⟩ := by
  have parsed : parse (quoted keys) =
      .ok (keys.foldl (fun object key => .index object (.text key)) (.name "hook")) := by
    rw [parse, scan_quoted named, Result.ok_bind, parseTokens_brackets short]
  have shallow := height_brackets keys
  rw [evaluate, value_of_parse parsed (by rw [shallow, maxEvaluationDepth, maxDepth]; omega),
    unlimited_brackets]

theorem evaluate_dotted (named : ∀ key ∈ keys, isName key = true) (short : keys.length ≤ 98)
    (free : ∀ key ∈ keys, key ∉ literals) :
    (ofDocument document).evaluate (dotted keys) =
      ((along document keys).outcome .selection).mapError
        fun fault => ⟨dotted keys, .evaluation fault⟩ := by
  have parsed : parse (dotted keys) = .ok (keys.foldl .member (.name "hook")) := by
    rw [parse, scan_dotted named, Result.ok_bind, parseTokens_dots free (by omega)]
  have shallow := height_dots keys
  rw [evaluate, value_of_parse parsed (by rw [shallow, maxEvaluationDepth, maxDepth]; omega),
    unlimited_dots]

theorem evaluate_literal {before after : List String} {word : String}
    (named : ∀ key ∈ before ++ word :: after, isName key = true)
    (short : (before ++ word :: after).length ≤ 98) (free : ∀ key ∈ before, key ∉ literals)
    (literal : word ∈ literals) :
    (ofDocument document).evaluate (dotted (before ++ word :: after)) =
      .error ⟨dotted (before ++ word :: after),
        .malformed (.unexpected (Token.ofWord word))⟩ := by
  rw [List.length_append] at short
  have parsed : parse (dotted (before ++ word :: after)) =
      .error (.unexpected (Token.ofWord word)) := by
    rw [parse, scan_dotted named, Result.ok_bind, List.flatMap_append, List.flatMap_cons,
      List.append_assoc, dots, List.append_assoc]
    exact parseTokens_literal free literal (by omega) _
  rw [evaluate, value, parsed]

end

/-- Along at most 98 names, a path with brackets leads to what the keys lead to in the document, and
so does a path with dots, unless one of the keys is a literal. The first literal behind a dot is an
unexpected token. -/
theorem paths_agree (document : Json) {keys : List String} (named : ∀ key ∈ keys, isName key = true)
    (short : keys.length ≤ 98) :
    (ofDocument document).evaluate (quoted keys) =
        ((along document keys).outcome fun _ kind => .indexing kind .text).mapError
          (fun fault => ⟨quoted keys, .evaluation fault⟩) ∧
      ((∀ key ∈ keys, key ∉ literals) →
        (ofDocument document).evaluate (dotted keys) =
          ((along document keys).outcome .selection).mapError
            fun fault => ⟨dotted keys, .evaluation fault⟩) ∧
      ∀ before word after, keys = before ++ word :: after → (∀ key ∈ before, key ∉ literals) →
        word ∈ literals →
          (ofDocument document).evaluate (dotted keys) =
            .error ⟨dotted keys, .malformed (.unexpected (Token.ofWord word))⟩ := by
  refine ⟨evaluate_quoted document named short, evaluate_dotted document named short, ?_⟩
  rintro before word after rfl free literal
  exact evaluate_literal document named short free literal

def keywordDocument : Json :=
  .object [("null", .string "found"), ("in", .null), ("in", .object [("ref", .string "main")])]

theorem keyword_agrees :
    quoted ["in", "ref"] = "hook['in']['ref']" ∧ dotted ["in", "ref"] = "hook.in.ref" ∧
      (ofDocument keywordDocument).evaluate (quoted ["in", "ref"]) = .ok (.text "main") ∧
        (ofDocument keywordDocument).evaluate (dotted ["in", "ref"]) = .ok (.text "main") := by
  have named : ∀ key ∈ ["in", "ref"], isName key = true := by
    decide
  obtain ⟨indexed, selected, _⟩ := paths_agree keywordDocument named (by decide)
  refine ⟨by decide +kernel, by decide +kernel, indexed.trans ?_, (selected (by decide)).trans ?_⟩
  · rfl
  · rfl

theorem keyword_differs :
    isName "null" = true ∧ quoted ["null"] = "hook['null']" ∧ dotted ["null"] = "hook.null" ∧
      (ofDocument keywordDocument).evaluate "hook['null']" = .ok (.text "found") ∧
        (ofDocument keywordDocument).evaluate "hook.null" =
          .error ⟨"hook.null", .malformed (.unexpected .null)⟩ := by
  have named : ∀ key ∈ ["null"], isName key = true := by
    decide
  have indexed := evaluate_quoted keywordDocument named (by decide)
  have selected : (ofDocument keywordDocument).evaluate (dotted ([] ++ "null" :: [])) = _ :=
    evaluate_literal keywordDocument named (by decide) nofun (by decide)
  have texts : quoted ["null"] = "hook['null']" ∧ dotted ["null"] = "hook.null" := by
    decide +kernel
  rw [texts.1] at indexed
  rw [List.nil_append, texts.2] at selected
  exact ⟨named "null" (List.mem_singleton_self _), texts.1, texts.2, indexed, selected⟩

end Webhook.Context

end StagedRuns
