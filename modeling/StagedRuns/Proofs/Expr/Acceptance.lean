import StagedRuns.Proofs.Expr.Completeness

/-!
The texts that are parsed are those whose words the grammar derives. Only depth is in the way: the
levels of nesting are bounded, so a text that is derived may still be too deep.
-/

namespace StagedRuns.Expr

theorem Token.ofWord_ne_end (word : String) : Token.ofWord word ≠ .endOfInput := by
  unfold Token.ofWord
  repeat' split
  all_goals exact Token.noConfusion

theorem readDecimal_token (position : Nat) (text : List Char) :
    ∃ value, (readDecimal position text).token = .number value := by
  unfold readDecimal
  dsimp only
  split <;> exact ⟨_, rfl⟩

theorem single?_ne_end {c : Char} {token : Token} (found : single? c = some token) :
    token ≠ .endOfInput := by
  unfold single? at found
  split at found <;> cases found <;> exact Token.noConfusion

theorem double?_ne_end {c second : Char} {token : Token} {alone : Option Token}
    (found : double? c = some (second, token, alone)) :
    token ≠ .endOfInput ∧ alone ≠ some .endOfInput := by
  unfold double? at found
  split at found <;> cases found <;> exact ⟨Token.noConfusion, by simp⟩

theorem lexeme_ne_end {position : Nat} {c : Char} {rest : List Char} {found : Lexeme}
    (read : lexeme position c rest = .ok found) : found.token ≠ .endOfInput := by
  unfold lexeme at read
  split at read
  · rename_i token isSingle
    cases read
    exact single?_ne_end isSingle
  · rename_i second token alone _ isDouble
    obtain ⟨ofBoth, ofOne⟩ := double?_ne_end isDouble
    split at read
    · cases read
      exact ofBoth
    · split at read
      · cases read
        rintro rfl
        exact ofOne rfl
      · cases read
  · split at read
    · obtain ⟨⟨content, after⟩, _, done⟩ := Result.bind_eq_ok.mp read
      cases done
      exact Token.noConfusion
    · split at read
      · cases read
        obtain ⟨value, number⟩ := readDecimal_token position (c :: rest)
        rw [number]
        exact Token.noConfusion
      · split at read
        · cases read
          exact Token.ofWord_ne_end _
        · cases read

theorem scanFrom_words {fuel position : Nat} {text : List Char} {tokens : List Token}
    (scanned : scanFrom fuel position text = .ok tokens) :
    ∃ words, tokens = words ++ [.endOfInput] ∧ .endOfInput ∉ words := by
  induction fuel generalizing position text tokens with
  | zero =>
      cases scanned
      exact ⟨[], rfl, List.not_mem_nil⟩
  | succ fuel ih =>
      unfold scanFrom at scanned
      split at scanned
      · cases scanned
        exact ⟨[], rfl, List.not_mem_nil⟩
      · obtain ⟨found, read, remaining⟩ := Result.bind_eq_ok.mp scanned
        obtain ⟨others, scannedOthers, done⟩ := Result.bind_eq_ok.mp remaining
        cases done
        obtain ⟨words, rfl, inner⟩ := ih scannedOthers
        refine ⟨found.token :: words, rfl, ?_⟩
        rw [List.mem_cons, not_or]
        exact ⟨(lexeme_ne_end read).symm, inner⟩

/-- A text that is cut into tokens is parsed to a tree only if its words derive the tree. If they
do, it is parsed to that tree or nests too deep, which takes more words than there are levels. -/
theorem parse_grammar {text : String} {tokens : List Token} (scanned : scan text = .ok tokens) :
    ∃ words, tokens = words ++ [.endOfInput] ∧ .endOfInput ∉ words ∧
      (∀ tree, parse text = .ok tree → Derives .choice words tree) ∧
      (∀ tree, Derives .choice words tree →
        parse text = .ok tree ∨ ∃ fault, parse text = .error fault ∧
          fault.message = "expression nested deeper than 100 levels") ∧
      (∀ tree, Derives .choice words tree → words.length ≤ 100 → parse text = .ok tree) := by
  obtain ⟨words, rfl, inner⟩ := scanFrom_words scanned
  have parsed : parse text = parseTokens (words ++ [.endOfInput]) := by
    rw [parse, scanned, Result.ok_bind]
  rw [parsed]
  refine ⟨words, rfl, inner, ?_, ?_, ?_⟩
  · intro tree done
    exact derives_of_parseTokens inner done
  · intro tree derived
    obtain ⟨need, _, comesTo⟩ := parseTokens_of_derives derived
    rw [comesTo, bounded]
    split
    · exact Or.inl rfl
    · exact Or.inr ⟨.tooDeep, rfl, rfl⟩
  · intro tree derived short
    obtain ⟨need, bound, comesTo⟩ := parseTokens_of_derives derived
    rw [comesTo]
    exact if_pos (Nat.le_trans bound short)

theorem parse_comparison :
    scan "hook.ref == 'main'" =
        .ok [.name "hook", .dot, .name "ref", .equal, .text "main", .endOfInput] ∧
      parse "hook.ref == 'main'" =
        .ok (.binary .equal (.member (.name "hook") "ref") (.text "main")) := by
  have scanned : scan "hook.ref == 'main'" =
      .ok [.name "hook", .dot, .name "ref", .equal, .text "main", .endOfInput] := by
    decide +kernel
  obtain ⟨words, split, _, _, _, parses⟩ := parse_grammar scanned
  obtain rfl : [.name "hook", .dot, .name "ref", .equal, .text "main"] = words :=
    List.append_cancel_right split
  have field : Derives (.operand .relation)
      [.name "hook", .dot, .name "ref"] (.member (.name "hook") "ref") :=
    .operand (.operand (.unapplied (.member (.name "ref") (.object (.name "hook")))))
  have text : Derives (.operand .relation) [.text "main"] (.text "main") :=
    .operand (.operand (.unapplied (.object (.literal (.text "main")))))
  have compared := Derives.joined .equal (.operand field) text
  exact ⟨scanned, parses _ (.unchosen (.operand (.operand compared))) (by decide)⟩

end StagedRuns.Expr
