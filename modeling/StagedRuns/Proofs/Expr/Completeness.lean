import StagedRuns.Proofs.Expr.Soundness

/-!
What is derived is read. A phrase that the grammar derives takes up some levels of nesting, not more
than it has tokens. A reading function comes to its tree if that many levels are left, and is too
deep otherwise; the fuel always suffices.
-/

namespace StagedRuns.Expr

/-! ### Where phrases end -/

/-- How loose a phrase is that a token goes on with; tokens that end every phrase are the
loosest. -/
def Token.looseness : Token → Nat
  | .openParen => 0
  | .dot | .openBracket => 1
  | .star | .slash | .percent => 2
  | .plus | .minus => 3
  | .equal | .unequal | .less | .atMost | .greater | .atLeast | .within => 4
  | .both => 5
  | .either => 6
  | .question => 7
  | _ => 8

namespace Phrase

def looseness : Phrase → Nat
  | .primary => 0
  | .selected | .unary => 1
  | .chain .product => 2
  | .chain .sum => 3
  | .chain .relation => 4
  | .chain .both => 5
  | .chain .either => 6
  | .choice => 7

/-- Whether a phrase cannot go on with the first of some tokens. -/
def Ends (phrase : Phrase) (rest : List Token) : Prop :=
  phrase.looseness < (rest.head?.getD .endOfInput).looseness

/-- How many calls at most lie between reading a choice and reading the phrase that it begins
with. -/
def offset : Phrase → Nat
  | .choice => 0
  | .chain .either => 1
  | .chain .both => 3
  | .chain .relation => 5
  | .chain .sum => 7
  | .chain .product => 9
  | .unary => 11
  | .selected => 12
  | .primary => 14

/-- A choice may take up as many levels as it has tokens, any other phrase one less. -/
def spare : Phrase → Nat
  | .choice => 0
  | _ => 1

theorem operand_looseness (tier : Tier) :
    (Phrase.operand tier).looseness < (Phrase.chain tier).looseness := by
  cases tier <;> decide

theorem offset_le (phrase : Phrase) : phrase.offset ≤ 14 := by
  match phrase with
  | .choice | .unary | .selected | .primary => decide
  | .chain tier => cases tier <;> decide

theorem operand_offset (tier : Tier) :
    (Phrase.operand tier).offset = (Phrase.chain tier).offset + 2 := by
  cases tier <;> rfl

theorem operand_spare (tier : Tier) : (Phrase.operand tier).spare = 1 := by
  cases tier <;> rfl

end Phrase

theorem Joins.looseness_eq {tier : Tier} {sign : Token} {op : BinaryOp}
    (joins : Joins tier sign op) : sign.looseness = (Phrase.chain tier).looseness := by
  cases joins <;> rfl

theorem operator?_of_looser {tier : Tier} {token : Token}
    (looser : (Phrase.chain tier).looseness < token.looseness) : tier.operator? token = none := by
  cases found : tier.operator? token with
  | none => rfl
  | some op =>
      have joins := operator?_eq_some_iff.mp found
      rw [joins.looseness_eq] at looser
      exact absurd looser (Nat.lt_irrefl _)

/-! ### Levels of nesting -/

/-- What a reading comes to that takes up some levels below a depth. -/
def bounded {α : Type} (depth need : Nat) (result : Except SyntaxFault α) :
    Except SyntaxFault α :=
  if need ≤ maxDepth - depth then result else .error .tooDeep

section Bounded

variable {α β : Type} {depth need more levels : Nat} {result : Except SyntaxFault α}

theorem bounded_zero : bounded depth 0 result = result :=
  if_pos (Nat.zero_le _)

theorem bounded_bind {next : α → Except SyntaxFault β} :
    bounded depth need result >>= next = bounded depth need (result >>= next) := by
  unfold bounded
  split <;> rfl

theorem bounded_below (covered : levels ≤ need) :
    bounded depth need (bounded (depth + levels) more result) =
      bounded depth (max need (levels + more)) result := by
  unfold bounded
  by_cases fits : max need (levels + more) ≤ maxDepth - depth
  · rw [if_pos fits, if_pos (by omega), if_pos (by omega)]
  · rw [if_neg fits]
    split
    · rw [if_neg (by omega)]
    · rfl

theorem bounded_bounded :
    bounded depth need (bounded depth more result) = bounded depth (max need more) result := by
  have below := @bounded_below α depth need more 0 result (Nat.zero_le need)
  rwa [Nat.add_zero, Nat.zero_add] at below

theorem bounded_deeper :
    bounded depth 1 (bounded (depth + 1) more result) = bounded depth (more + 1) result := by
  rw [bounded_below (Nat.le_refl 1), Nat.add_comm 1 more, Nat.max_eq_right (Nat.le_add_left 1 more)]

theorem bounded_ok_bind {value : α} {next : α → Except SyntaxFault β} :
    bounded depth need (.ok value) >>= next = bounded depth need (next value) :=
  bounded_bind

theorem descend_bind {tokens : List Token} {next : Cursor → Except SyntaxFault α} :
    Cursor.descend ⟨tokens, depth⟩ >>= next = bounded depth 1 (next ⟨tokens, depth + 1⟩) := by
  unfold Cursor.descend bounded
  dsimp only
  by_cases fits : depth < maxDepth
  · rw [if_pos fits, if_pos (by omega)]
    rfl
  · rw [if_neg fits, if_neg (by omega)]
    rfl

end Bounded

/-! ### Cursors -/

theorem Cursor.peek_cons (token : Token) (tokens : List Token) (depth : Nat) :
    Cursor.peek ⟨token :: tokens, depth⟩ = token :=
  rfl

theorem Cursor.advance_cons (token : Token) (tokens : List Token) (depth : Nat) :
    Cursor.advance ⟨token :: tokens, depth⟩ = ⟨tokens, depth⟩ :=
  rfl

theorem Cursor.expect_cons (token : Token) (tokens : List Token) (depth : Nat) :
    Cursor.expect ⟨token :: tokens, depth⟩ token = .ok ⟨tokens, depth⟩ :=
  if_pos rfl

theorem Cursor.field_cons {token : Token} {word : String} (names : FieldName token word)
    (tokens : List Token) (depth : Nat) :
    Cursor.field ⟨token :: tokens, depth⟩ = .ok (word, ⟨tokens, depth⟩) := by
  cases names <;> rfl

theorem Phrase.ends_cons {phrase : Phrase} {token : Token} {rest : List Token}
    (looser : phrase.looseness < token.looseness) : phrase.Ends (token :: rest) :=
  looser

theorem Phrase.Ends.of_tighter {tight loose : Phrase} {rest : List Token} (ends : loose.Ends rest)
    (tighter : tight.looseness < loose.looseness) : tight.Ends rest :=
  Nat.lt_trans tighter ends

theorem Phrase.Ends.peek_ne {phrase : Phrase} {rest : List Token} (ends : phrase.Ends rest)
    {token : Token} (tighter : token.looseness ≤ phrase.looseness) (depth : Nat) :
    Cursor.peek ⟨rest, depth⟩ ≠ token := by
  rintro rfl
  exact absurd ends (Nat.not_lt.mpr tighter)

/-! ### Reading what is derived -/

/-- Whether reading a phrase comes to its tree within some levels of nesting. -/
def Readable (phrase : Phrase) (tokens : List Token) (tree : Tree) : Prop :=
  ∃ need, need + phrase.spare ≤ tokens.length ∧
    ∀ fuel depth rest, 16 * tokens.length ≤ fuel + phrase.offset → phrase.Ends rest →
      phrase.read fuel ⟨tokens ++ rest, depth⟩ = bounded depth need (.ok (tree, ⟨rest, depth⟩))

/-- Whether reading what a phrase begins with and then what it goes on with comes past its tokens
with its tree, where each step that it goes on is one level deeper. -/
def Grows (first : Nat → Cursor → Except SyntaxFault (Tree × Cursor))
    (next : Nat → Tree → Cursor → Except SyntaxFault (Tree × Cursor)) (head : Phrase)
    (tokens : List Token) (tree : Tree) : Prop :=
  ∃ need levels, need < tokens.length ∧ levels ≤ need ∧
    ∀ fuel depth rest, 16 * tokens.length < fuel + head.offset → head.Ends rest →
      (first fuel ⟨tokens ++ rest, depth⟩ >>= fun found => next fuel found.1 found.2) =
        bounded depth need (next (fuel - levels) tree ⟨rest, depth + levels⟩)

section Grows

variable {first : Nat → Cursor → Except SyntaxFault (Tree × Cursor)}
  {next : Nat → Tree → Cursor → Except SyntaxFault (Tree × Cursor)} {head : Phrase}
  {tokens more : List Token} {left tree : Tree}

theorem Grows.step (grows : Grows first next head tokens left) (continues : head.Ends more)
    (need : Nat) (covered : need + 2 ≤ more.length)
    (step : ∀ fuel depth rest, 16 * more.length ≤ fuel → head.Ends rest →
      next (fuel + 1) left ⟨more ++ rest, depth⟩ =
        bounded depth (need + 1) (next fuel tree ⟨rest, depth + 1⟩)) :
    Grows first next head (tokens ++ more) tree := by
  obtain ⟨before, levels, bound, shallow, reads⟩ := grows
  refine ⟨max before (levels + (need + 1)), levels + 1, ?_, ?_, ?_⟩
  · rw [List.length_append]
    omega
  · omega
  · intro fuel depth rest fueled ends
    rw [List.length_append] at fueled
    have atMost := head.offset_le
    have onward : head.Ends (more ++ rest) := by
      cases more with
      | nil => simp at covered
      | cons token more => exact continues
    obtain ⟨spent, enough⟩ : ∃ spent, fuel - levels = spent + 1 := ⟨fuel - levels - 1, by omega⟩
    -- The step begins as many levels deeper as there were steps before it.
    rw [List.append_assoc, reads fuel depth (more ++ rest) (by omega) onward, enough,
      step spent (depth + levels) rest (by omega) ends, bounded_below shallow]
    rw [Nat.add_assoc, show fuel - (levels + 1) = spent by omega]

theorem Readable.chain_grows {tier : Tier} (readable : Readable (.operand tier) tokens tree) :
    Grows (readOperand · tier) (readChain · tier) (.operand tier) tokens tree := by
  obtain ⟨need, bound, reads⟩ := readable
  rw [Phrase.operand_spare] at bound
  refine ⟨need, 0, bound, Nat.zero_le _, ?_⟩
  intro fuel depth rest fueled ends
  have atMost := (Phrase.operand tier).offset_le
  obtain ⟨spent, rfl⟩ : ∃ spent, fuel = spent + 1 := ⟨fuel - 1, by omega⟩
  dsimp only
  rw [readOperand_succ, reads spent depth rest (by omega) ends, bounded_bind]
  rfl

theorem Readable.selected_grows (readable : Readable .primary tokens tree) :
    Grows readPrimary readSelections .primary tokens tree := by
  obtain ⟨need, bound, reads⟩ := readable
  refine ⟨need, 0, bound, Nat.zero_le _, ?_⟩
  intro fuel depth rest fueled ends
  rw [show readPrimary fuel _ = _ from reads fuel depth rest (by omega) ends, bounded_bind]
  rfl

/-- What grows is read as a whole once nothing follows that it goes on with. -/
theorem Grows.readable {whole : Phrase} (grows : Grows first next head tokens tree)
    (looser : head.looseness < whole.looseness) (apart : head.offset = whole.offset + 2)
    (spares : whole.spare = 1)
    (unfolds : ∀ fuel cursor, whole.read (fuel + 1) cursor =
      (first fuel cursor >>= fun found => next fuel found.1 found.2) >>= fun found =>
        .ok (found.1, found.2.restore cursor.depth))
    (stops : ∀ fuel depth rest, whole.Ends rest →
      next (fuel + 1) tree ⟨rest, depth⟩ = .ok (tree, ⟨rest, depth⟩)) :
    Readable whole tokens tree := by
  obtain ⟨need, levels, bound, shallow, reads⟩ := grows
  refine ⟨need, spares ▸ bound, ?_⟩
  intro fuel depth rest fueled ends
  have atMost := head.offset_le
  obtain ⟨spent, rfl⟩ : ∃ spent, fuel = spent + 1 := ⟨fuel - 1, by omega⟩
  obtain ⟨last, enough⟩ : ∃ last, spent - levels = last + 1 := ⟨spent - levels - 1, by omega⟩
  rw [unfolds, reads spent depth rest (by omega) (ends.of_tighter looser), enough,
    stops last (depth + levels) rest ends, bounded_bind]
  rfl

theorem Grows.chain_readable {tier : Tier}
    (grows : Grows (readOperand · tier) (readChain · tier) (.operand tier) tokens tree) :
    Readable (.chain tier) tokens tree := by
  refine grows.readable (Phrase.operand_looseness tier) (Phrase.operand_offset tier) rfl ?_ ?_
  · intro fuel cursor
    rw [Phrase.read, readTier, bind_assoc]
  · intro fuel depth rest ends
    rw [readChain, Cursor.peek, operator?_of_looser ends]

theorem Grows.selected_readable (grows : Grows readPrimary readSelections .primary tokens tree) :
    Readable .selected tokens tree := by
  refine grows.readable (by decide) rfl rfl ?_ ?_
  · intro fuel cursor
    rw [Phrase.read, readSelected, bind_assoc]
  · intro fuel depth rest ends
    rw [readSelections]
    split
    · rename_i dot
      exact absurd dot (ends.peek_ne (by decide) depth)
    · rename_i bracket
      exact absurd bracket (ends.peek_ne (by decide) depth)
    · rfl

end Grows

/-! ### Where phrases begin -/

def Token.opensPrimary : Token → Bool
  | .null | .true | .false | .number _ | .text _ | .name _ | .openParen | .openBracket => Bool.true
  | _ => Bool.false

inductive Phrase.Opens : Phrase → Token → Prop
  | primary {phrase : Phrase} {token : Token} (opens : token.opensPrimary) : Opens phrase token
  | sign {phrase : Phrase} {token : Token} {op : UnaryOp} (applies : Applies token op)
      (loose : phrase ≠ .selected ∧ phrase ≠ .primary) : Opens phrase token

theorem Phrase.Opens.of_looser {tight loose : Phrase} {token : Token} (opens : tight.Opens token)
    (looser : tight ≠ .selected ∧ tight ≠ .primary → loose ≠ .selected ∧ loose ≠ .primary) :
    loose.Opens token := by
  cases opens with
  | primary opens => exact .primary opens
  | sign applies loose => exact .sign applies (looser loose)

theorem Phrase.Opens.ne_close {phrase : Phrase} {token close : Token} (opens : phrase.Opens token)
    (closes : close = .closeParen ∨ close = .closeBracket) : token ≠ close := by
  rintro rfl
  cases opens with
  | primary opens => rcases closes with rfl | rfl <;> cases opens
  | sign applies => rcases closes with rfl | rfl <;> cases applies

theorem Phrase.Opens.unaryOperator?_eq_none {token : Token}
    (opens : Phrase.selected.Opens token) : unaryOperator? token = none := by
  cases opens with
  | primary opens => cases token <;> first | rfl | cases opens
  | sign applies loose => exact absurd rfl loose.1

theorem Derives.opens {phrase : Phrase} {tokens : List Token} {tree : Tree}
    (derived : Derives phrase tokens tree) :
    ∃ token more, tokens = token :: more ∧ phrase.Opens token := by
  induction derived with
  | unchosen _ ih | operand _ ih =>
      obtain ⟨token, more, rfl, opens⟩ := ih
      exact ⟨token, more, rfl, opens.of_looser (by simp)⟩
  | unapplied _ ih | object _ ih =>
      obtain ⟨token, more, rfl, opens⟩ := ih
      exact ⟨token, more, rfl, opens.of_looser (by simp)⟩
  | choice _ _ _ ih _ _ | joined _ _ _ ih _ | member _ _ ih | method _ _ _ ih _ | index _ _ ih _ =>
      obtain ⟨token, more, rfl, opens⟩ := ih
      exact ⟨token, _, List.cons_append, opens.of_looser (by simp)⟩
  | applied applies _ _ => exact ⟨_, _, rfl, .sign applies (by simp)⟩
  | literal stands => exact ⟨_, _, rfl, .primary (by cases stands <;> rfl)⟩
  | name | call | enclosed | list => exact ⟨_, _, rfl, .primary rfl⟩

/-! ### Arguments -/

theorem Token.closes_looseness {close : Token}
    (closes : close = .closeParen ∨ close = .closeBracket) :
    Phrase.choice.looseness < close.looseness := by
  rcases closes with rfl | rfl <;> decide

/-- Whether reading arguments comes to their trees within some levels of nesting. -/
def ReadableAll (arguments : List (List Token × Tree)) : Prop :=
  ∃ need, need ≤ (separated arguments).length ∧
    ∀ fuel close depth rest, close = .closeParen ∨ close = .closeBracket →
      16 * (separated arguments).length + 1 < fuel →
        readArguments fuel close ⟨separated arguments ++ close :: rest, depth⟩ =
          bounded depth need (.ok (arguments.map Prod.snd, ⟨rest, depth⟩))

theorem items_readable {arguments : List (List Token × Tree)} (occupied : arguments ≠ [])
    (each : ∀ argument ∈ arguments, Readable .choice argument.1 argument.2) :
    ∃ need, need ≤ (separated arguments).length ∧
      ∀ fuel close depth rest, close = .closeParen ∨ close = .closeBracket →
        16 * (separated arguments).length < fuel →
          readItems fuel close ⟨separated arguments ++ close :: rest, depth⟩ =
            bounded depth need (.ok (arguments.map Prod.snd, ⟨rest, depth⟩)) := by
  induction arguments with
  | nil => exact absurd rfl occupied
  | cons first others ih =>
      obtain ⟨need, bound, reads⟩ := each first List.mem_cons_self
      cases others with
      | nil =>
          rw [separated_singleton]
          refine ⟨need, bound, ?_⟩
          intro fuel close depth rest closes fueled
          obtain ⟨spent, rfl⟩ : ∃ spent, fuel = spent + 1 := ⟨fuel - 1, by omega⟩
          have inside : readChoice spent ⟨first.1 ++ close :: rest, depth⟩ = _ :=
            reads spent depth _ (by simp only [Phrase.offset]; omega)
              (Phrase.ends_cons (Token.closes_looseness closes))
          simp only [readItems, inside, bounded_ok_bind, Cursor.peek_cons, if_true,
            Cursor.advance_cons, List.map_cons, List.map_nil]
      | cons second others =>
          obtain ⟨restNeed, restBound, readsRest⟩ :=
            ih (List.cons_ne_nil _ _) fun argument inRest =>
              each argument (List.mem_cons_of_mem _ inRest)
          rw [separated_cons_cons]
          have length : (first.1 ++ .comma :: separated (second :: others)).length =
              first.1.length + (separated (second :: others)).length + 1 := by
            rw [List.length_append, List.length_cons, Nat.add_assoc]
          rw [length]
          simp only [Phrase.spare] at bound
          refine ⟨max need restNeed, by omega, ?_⟩
          intro fuel close depth rest closes fueled
          obtain ⟨spent, rfl⟩ : ∃ spent, fuel = spent + 1 := ⟨fuel - 1, by omega⟩
          have inside : readChoice spent
              ⟨first.1 ++ .comma :: (separated (second :: others) ++ close :: rest), depth⟩ = _ :=
            reads spent depth _ (by simp only [Phrase.offset]; omega) (Phrase.ends_cons (by decide))
          have apart : Token.comma ≠ close := by rcases closes with rfl | rfl <;> decide
          have behind := readsRest spent close depth rest closes (by omega)
          simp only [readItems, List.append_assoc, List.cons_append, inside, bounded_ok_bind,
            Cursor.peek_cons, if_neg apart, Cursor.expect_cons, Result.ok_bind, behind,
            bounded_bounded, List.map_cons]

theorem arguments_readable {arguments : List (List Token × Tree)}
    (derived : ∀ argument ∈ arguments, Derives .choice argument.1 argument.2)
    (each : ∀ argument ∈ arguments, Readable .choice argument.1 argument.2) :
    ReadableAll arguments := by
  cases arguments with
  | nil =>
      refine ⟨0, Nat.zero_le _, ?_⟩
      intro fuel close depth rest closes fueled
      obtain ⟨spent, rfl⟩ : ∃ spent, fuel = spent + 1 := ⟨fuel - 1, by omega⟩
      exact if_pos rfl
  | cons first rest =>
      obtain ⟨need, bound, reads⟩ := items_readable (List.cons_ne_nil first rest) each
      refine ⟨need, bound, ?_⟩
      intro fuel close depth behind closes fueled
      obtain ⟨spent, rfl⟩ : ∃ spent, fuel = spent + 1 := ⟨fuel - 1, by omega⟩
      obtain ⟨token, others, begins, opens⟩ := (derived first List.mem_cons_self).opens
      obtain ⟨more, front⟩ := separated_cons first rest
      have unclosed :
          Cursor.peek ⟨separated (first :: rest) ++ close :: behind, depth⟩ ≠ close := by
        rw [front, begins]
        exact opens.ne_close closes
      rw [readArguments, if_neg unclosed]
      exact reads spent close depth behind closes (by omega)

/-! ### Phrases -/

namespace Readable

variable {tier : Tier} {tokens : List Token} {tree : Tree}

theorem unchosen (readable : Readable (.chain .either) tokens tree) :
    Readable .choice tokens tree := by
  obtain ⟨need, bound, reads⟩ := readable
  simp only [Phrase.spare, Phrase.offset] at bound reads
  refine ⟨need + 1, bound, ?_⟩
  intro fuel depth rest fueled ends
  simp only [Phrase.offset] at fueled
  obtain ⟨spent, rfl⟩ : ∃ spent, fuel = spent + 1 := ⟨fuel - 1, by omega⟩
  have condition : readTier spent .either ⟨tokens ++ rest, depth + 1⟩ = _ :=
    reads spent (depth + 1) rest (by omega) (ends.of_tighter (by decide))
  have unasked := ends.peek_ne (Nat.le_refl Token.question.looseness) (depth + 1)
  rw [Phrase.read, readChoice, descend_bind, condition, bounded_ok_bind, bounded_deeper]
  exact congrArg (bounded depth (need + 1)) (if_neg unasked)

theorem choice {yes no : List Token} {yesTree noTree : Tree}
    (condition : Readable (.chain .either) tokens tree) (ofYes : Readable .choice yes yesTree)
    (ofNo : Readable .choice no noTree) :
    Readable .choice (tokens ++ .question :: (yes ++ .colon :: no))
      (.choice tree yesTree noTree) := by
  obtain ⟨need, bound, reads⟩ := condition
  obtain ⟨yesNeed, yesBound, readsYes⟩ := ofYes
  obtain ⟨noNeed, noBound, readsNo⟩ := ofNo
  simp only [Phrase.spare, Phrase.offset] at bound reads yesBound readsYes noBound readsNo
  refine ⟨max need (max yesNeed noNeed) + 1, ?_, ?_⟩
  · simp only [Phrase.spare, List.length_append, List.length_cons]
    omega
  · intro fuel depth rest fueled ends
    simp only [Phrase.offset, List.length_append, List.length_cons] at fueled
    obtain ⟨spent, rfl⟩ : ∃ spent, fuel = spent + 1 := ⟨fuel - 1, by omega⟩
    have first : readTier spent .either
        ⟨tokens ++ .question :: (yes ++ .colon :: (no ++ rest)), depth + 1⟩ = _ :=
      reads spent (depth + 1) _ (by omega) (Phrase.ends_cons (by decide))
    have second : readChoice spent ⟨yes ++ .colon :: (no ++ rest), depth + 1⟩ = _ :=
      readsYes spent (depth + 1) _ (by omega) (Phrase.ends_cons (by decide))
    have third : readChoice spent ⟨no ++ rest, depth + 1⟩ = _ :=
      readsNo spent (depth + 1) rest (by omega) ends
    simp only [List.append_assoc, List.cons_append]
    simp only [Phrase.read, readChoice, descend_bind, first, second, third, bounded_ok_bind,
      Cursor.peek_cons, Cursor.advance_cons, Cursor.expect_cons, Result.ok_bind, if_true,
      bounded_bounded, bounded_deeper]
    rfl

theorem applied {sign : Token} {op : UnaryOp} (applies : Applies sign op)
    (readable : Readable .unary tokens tree) :
    Readable .unary (sign :: tokens) (.unary op tree) := by
  obtain ⟨need, bound, reads⟩ := readable
  simp only [Phrase.spare, Phrase.offset] at bound reads
  refine ⟨need + 1, Nat.succ_le_succ bound, ?_⟩
  intro fuel depth rest fueled ends
  simp only [Phrase.offset, List.length_cons] at fueled
  obtain ⟨spent, rfl⟩ : ∃ spent, fuel = spent + 1 := ⟨fuel - 1, by omega⟩
  have inside : readUnary spent ⟨tokens ++ rest, depth + 1⟩ = _ :=
    reads spent (depth + 1) rest (by omega) ends
  simp only [List.cons_append, Phrase.read, readUnary, Cursor.peek_cons,
    unaryOperator?_eq_some_iff.mpr applies, Cursor.advance_cons, descend_bind, inside,
    bounded_ok_bind, bounded_deeper]
  rfl

theorem unapplied (derived : Derives .selected tokens tree)
    (readable : Readable .selected tokens tree) : Readable .unary tokens tree := by
  obtain ⟨need, bound, reads⟩ := readable
  obtain ⟨token, more, rfl, opens⟩ := derived.opens
  refine ⟨need, bound, ?_⟩
  intro fuel depth rest fueled ends
  simp only [Phrase.offset, List.length_cons] at fueled
  obtain ⟨spent, rfl⟩ : ∃ spent, fuel = spent + 1 := ⟨fuel - 1, by omega⟩
  have unsigned : unaryOperator? (Cursor.peek ⟨token :: more ++ rest, depth⟩) = none :=
    opens.unaryOperator?_eq_none
  rw [Phrase.read, readUnary, unsigned]
  exact reads spent depth rest (by simp only [Phrase.offset, List.length_cons]; omega) ends

theorem literal {token : Token} (stands : Literal token tree) : Readable .primary [token] tree := by
  refine ⟨0, Nat.le_refl 1, ?_⟩
  intro fuel depth rest fueled ends
  simp only [Phrase.offset, List.length_singleton] at fueled
  obtain ⟨spent, rfl⟩ : ∃ spent, fuel = spent + 1 := ⟨fuel - 1, by omega⟩
  rw [Phrase.read, bounded_zero]
  cases stands <;> rfl

theorem name (word : String) : Readable .primary [.name word] (.name word) := by
  refine ⟨0, Nat.le_refl 1, ?_⟩
  intro fuel depth rest fueled ends
  simp only [Phrase.offset, List.length_singleton] at fueled
  obtain ⟨spent, rfl⟩ : ∃ spent, fuel = spent + 1 := ⟨fuel - 1, by omega⟩
  have uncalled := ends.peek_ne (Nat.le_refl Token.openParen.looseness) depth
  rw [Phrase.read, bounded_zero]
  exact if_neg uncalled

theorem closed (front : List Token) {close : Token} {build : List Tree → Tree}
    {arguments : List (List Token × Tree)} (occupied : 1 ≤ front.length)
    (closes : close = .closeParen ∨ close = .closeBracket)
    (opens : ∀ fuel rest depth, readPrimary (fuel + 1) ⟨front ++ rest, depth⟩ =
      readArguments fuel close ⟨rest, depth⟩ >>= fun found => .ok (build found.1, found.2))
    (each : ReadableAll arguments) :
    Readable .primary (front ++ (separated arguments ++ [close]))
      (build (arguments.map Prod.snd)) := by
  obtain ⟨need, bound, reads⟩ := each
  refine ⟨need, ?_, ?_⟩
  · simp only [Phrase.spare, List.length_append, List.length_singleton]
    omega
  · intro fuel depth rest fueled ends
    simp only [Phrase.offset, List.length_append, List.length_singleton] at fueled
    obtain ⟨spent, rfl⟩ : ∃ spent, fuel = spent + 1 := ⟨fuel - 1, by omega⟩
    have inside := reads spent close depth rest closes (by omega)
    simp only [List.append_assoc, List.singleton_append]
    rw [Phrase.read, opens, inside, bounded_ok_bind]

theorem call (word : String) {arguments : List (List Token × Tree)}
    (each : ReadableAll arguments) :
    Readable .primary (.name word :: .openParen :: (separated arguments ++ [.closeParen]))
      (.call word (arguments.map Prod.snd)) := by
  refine closed [.name word, .openParen] (Nat.le_add_left 1 1) (Or.inl rfl) ?_ each
  intro fuel rest depth
  rw [readPrimary]
  rfl

theorem list {items : List (List Token × Tree)} (each : ReadableAll items) :
    Readable .primary (.openBracket :: (separated items ++ [.closeBracket]))
      (.list (items.map Prod.snd)) := by
  refine closed [.openBracket] (Nat.le_refl 1) (Or.inr rfl) ?_ each
  intro fuel rest depth
  rw [readPrimary]
  rfl

theorem enclosed (readable : Readable .choice tokens tree) :
    Readable .primary (.openParen :: (tokens ++ [.closeParen])) tree := by
  obtain ⟨need, bound, reads⟩ := readable
  simp only [Phrase.spare, Phrase.offset] at bound reads
  refine ⟨need, ?_, ?_⟩
  · simp only [Phrase.spare, List.length_cons, List.length_append]
    omega
  · intro fuel depth rest fueled ends
    simp only [Phrase.offset, List.length_cons, List.length_append, List.length_nil] at fueled
    obtain ⟨spent, rfl⟩ : ∃ spent, fuel = spent + 1 := ⟨fuel - 1, by omega⟩
    have inside : readChoice spent ⟨tokens ++ .closeParen :: rest, depth⟩ = _ :=
      reads spent depth _ (by omega) (Phrase.ends_cons (by decide))
    simp only [List.cons_append, List.append_assoc, List.nil_append]
    simp only [Phrase.read, readPrimary, Cursor.peek_cons, Cursor.advance_cons, inside,
      bounded_ok_bind, Cursor.expect_cons, Result.ok_bind]

end Readable

namespace Grows

variable {tokens : List Token} {tree : Tree}

theorem joined {tier : Tier} {right : List Token} {sign : Token} {op : BinaryOp} {rightTree : Tree}
    (joins : Joins tier sign op)
    (grows : Grows (readOperand · tier) (readChain · tier) (.operand tier) tokens tree)
    (ofRight : Readable (.operand tier) right rightTree) :
    Grows (readOperand · tier) (readChain · tier) (.operand tier) (tokens ++ sign :: right)
      (.binary op tree rightTree) := by
  obtain ⟨need, bound, reads⟩ := ofRight
  rw [Phrase.operand_spare] at bound
  have onward : (Phrase.operand tier).Ends (sign :: right) :=
    Nat.lt_of_lt_of_eq (Phrase.operand_looseness tier) joins.looseness_eq.symm
  refine grows.step onward need (Nat.succ_le_succ bound) ?_
  intro fuel depth rest fueled ends
  rw [List.length_cons] at fueled
  obtain ⟨spent, rfl⟩ : ∃ spent, fuel = spent + 1 := ⟨fuel - 1, by omega⟩
  have inside := reads spent (depth + 1) rest (by omega) ends
  simp only [List.cons_append]
  rw [readChain]
  simp only [Cursor.peek_cons, operator?_eq_some_iff.mpr joins, Cursor.advance_cons, descend_bind,
    readOperand_succ, inside, bounded_ok_bind, bounded_deeper]

theorem member {token : Token} {field : String} (names : FieldName token field)
    (grows : Grows readPrimary readSelections .primary tokens tree) :
    Grows readPrimary readSelections .primary (tokens ++ [.dot, token]) (.member tree field) := by
  refine grows.step (Phrase.ends_cons (by decide)) 0 (Nat.le_refl 2) ?_
  intro fuel depth rest fueled ends
  have uncalled := ends.peek_ne (Nat.le_refl Token.openParen.looseness) (depth + 1)
  simp only [List.cons_append, List.nil_append]
  rw [readSelections]
  simp only [Cursor.peek_cons, Cursor.advance_cons, descend_bind, Cursor.field_cons names,
    Result.ok_bind, if_neg uncalled]

theorem method {token : Token} {field : String} {arguments : List (List Token × Tree)}
    (names : FieldName token field)
    (grows : Grows readPrimary readSelections .primary tokens tree)
    (each : ReadableAll arguments) :
    Grows readPrimary readSelections .primary
      (tokens ++ .dot :: token :: .openParen :: (separated arguments ++ [.closeParen]))
      (.method tree field (arguments.map Prod.snd)) := by
  obtain ⟨need, bound, reads⟩ := each
  refine grows.step (Phrase.ends_cons (by decide)) need ?_ ?_
  · simp only [List.length_cons, List.length_append]
    omega
  · intro fuel depth rest fueled ends
    simp only [List.length_cons, List.length_append, List.length_nil] at fueled
    have inside := reads fuel .closeParen (depth + 1) rest (Or.inl rfl) (by omega)
    simp only [List.cons_append, List.append_assoc, List.nil_append]
    rw [readSelections]
    simp only [Cursor.peek_cons, Cursor.advance_cons, descend_bind, Cursor.field_cons names,
      Result.ok_bind, if_true, inside, bounded_ok_bind, bounded_deeper]

theorem index {place : List Token} {placeTree : Tree}
    (grows : Grows readPrimary readSelections .primary tokens tree)
    (ofPlace : Readable .choice place placeTree) :
    Grows readPrimary readSelections .primary
      (tokens ++ .openBracket :: (place ++ [.closeBracket])) (.index tree placeTree) := by
  obtain ⟨need, bound, reads⟩ := ofPlace
  simp only [Phrase.spare, Phrase.offset] at bound reads
  refine grows.step (Phrase.ends_cons (by decide)) need ?_ ?_
  · simp only [List.length_cons, List.length_append, List.length_nil]
    omega
  · intro fuel depth rest fueled ends
    simp only [List.length_cons, List.length_append, List.length_nil] at fueled
    have inside : readChoice fuel ⟨place ++ .closeBracket :: rest, depth + 1⟩ = _ :=
      reads fuel (depth + 1) _ (by omega) (Phrase.ends_cons (by decide))
    simp only [List.cons_append, List.append_assoc, List.nil_append]
    rw [readSelections]
    simp only [Cursor.peek_cons, Cursor.advance_cons, descend_bind, inside, bounded_ok_bind,
      bounded_deeper, Cursor.expect_cons, Result.ok_bind]

end Grows

/-- Whether what is derived for a kind of phrase is read: chains and selections step by step. -/
def Completes : Phrase → List Token → Tree → Prop
  | .chain tier, tokens, tree =>
      Grows (readOperand · tier) (readChain · tier) (.operand tier) tokens tree
  | .selected, tokens, tree => Grows readPrimary readSelections .primary tokens tree
  | phrase, tokens, tree => Readable phrase tokens tree

theorem Completes.readable {phrase : Phrase} {tokens : List Token} {tree : Tree}
    (completes : Completes phrase tokens tree) : Readable phrase tokens tree := by
  cases phrase with
  | chain tier => exact Grows.chain_readable completes
  | selected => exact Grows.selected_readable completes
  | choice | unary | primary => exact completes

theorem Derives.completes {phrase : Phrase} {tokens : List Token} {tree : Tree}
    (derived : Derives phrase tokens tree) : Completes phrase tokens tree := by
  -- A chain ends with its last operator in the derivation, but is read from its first operand on.
  -- So its left part is not taken as read: it grows, and what is behind it is one step more.
  induction derived with
  | unchosen _ ih => exact Readable.unchosen ih.readable
  | choice _ _ _ ihCondition ihYes ihNo =>
      exact Readable.choice ihCondition.readable ihYes.readable ihNo.readable
  | operand _ ih => exact ih.readable.chain_grows
  | joined joins _ _ ihLeft ihRight => exact Grows.joined joins ihLeft ihRight.readable
  | applied applies _ ih => exact Readable.applied applies ih.readable
  | unapplied derived ih => exact Readable.unapplied derived ih.readable
  | object _ ih => exact ih.readable.selected_grows
  | member names _ ih => exact Grows.member names ih
  | method names _ each ih ihEach =>
      exact Grows.method names ih
        (arguments_readable each fun argument member => (ihEach argument member).readable)
  | index _ _ ihObject ihPlace => exact Grows.index ihObject ihPlace.readable
  | literal stands => exact Readable.literal stands
  | name word => exact Readable.name word
  | call word each ihEach =>
      exact Readable.call word
        (arguments_readable each fun argument member => (ihEach argument member).readable)
  | enclosed _ ih => exact Readable.enclosed ih.readable
  | list each ihEach =>
      exact Readable.list
        (arguments_readable each fun item member => (ihEach item member).readable)

/-- Words that derive a tree are parsed to it unless they nest too deep, which takes more words
than there are levels. -/
theorem parseTokens_of_derives {words : List Token} {tree : Tree}
    (derived : Derives .choice words tree) :
    ∃ need, need ≤ words.length ∧
      parseTokens (words ++ [.endOfInput]) = bounded 0 need (.ok tree) := by
  obtain ⟨need, bound, reads⟩ := derived.completes.readable
  refine ⟨need, bound, ?_⟩
  unfold parseTokens
  generalize enough : parseFuel (words ++ [.endOfInput]) = fuel
  have fueled : 16 * words.length ≤ fuel := by
    rw [← enough, parseFuel, List.length_append]
    omega
  have read : readChoice fuel ⟨words ++ [.endOfInput], 0⟩ = _ :=
    reads fuel 0 [.endOfInput] fueled (Phrase.ends_cons (by decide))
  rw [read, bounded_ok_bind]
  exact congrArg (bounded 0 need) (if_pos rfl)

end StagedRuns.Expr
