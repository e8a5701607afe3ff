import StagedRuns.Expr.Tree.Parse

/-!
The grammar of expressions, as a relation between tokens and trees. Chains of binary operators and
of selections are derived from their left, so the operators of one tier associate to the left.
-/

namespace StagedRuns.Expr

inductive Phrase where
  | choice
  /-- Operands with the binary operators of a tier between them. -/
  | chain (tier : Tier)
  | unary
  | selected
  | primary
deriving DecidableEq, Repr

def Phrase.operand : Tier → Phrase
  | .either => .chain .both
  | .both => .chain .relation
  | .relation => .chain .sum
  | .sum => .chain .product
  | .product => .unary

inductive Joins : Tier → Token → BinaryOp → Prop
  | either : Joins .either .either .either
  | both : Joins .both .both .both
  | equal : Joins .relation .equal .equal
  | unequal : Joins .relation .unequal .unequal
  | less : Joins .relation .less .less
  | atMost : Joins .relation .atMost .atMost
  | greater : Joins .relation .greater .greater
  | atLeast : Joins .relation .atLeast .atLeast
  | within : Joins .relation .within .within
  | add : Joins .sum .plus .add
  | subtract : Joins .sum .minus .subtract
  | multiply : Joins .product .star .multiply
  | divide : Joins .product .slash .divide
  | modulo : Joins .product .percent .modulo

inductive Applies : Token → UnaryOp → Prop
  | not : Applies .not .not
  | negate : Applies .minus .negate

inductive Literal : Token → Tree → Prop
  | null : Literal .null .null
  | true : Literal .true (.bool true)
  | false : Literal .false (.bool false)
  | number (value : Number.Decimal) : Literal (.number value) (.number value)
  | text (content : String) : Literal (.text content) (.text content)

inductive FieldName : Token → String → Prop
  | name (word : String) : FieldName (.name word) word
  | within : FieldName .within "in"

def separated (arguments : List (List Token × Tree)) : List Token :=
  List.intercalate [.comma] (arguments.map Prod.fst)

inductive Derives : Phrase → List Token → Tree → Prop
  | unchosen {tokens : List Token} {tree : Tree} (derived : Derives (.chain .either) tokens tree) :
      Derives .choice tokens tree
  | choice {condition yes no : List Token} {conditionTree yesTree noTree : Tree}
      (ofCondition : Derives (.chain .either) condition conditionTree)
      (ofYes : Derives .choice yes yesTree) (ofNo : Derives .choice no noTree) :
      Derives .choice (condition ++ .question :: (yes ++ .colon :: no))
        (.choice conditionTree yesTree noTree)
  | operand {tier : Tier} {tokens : List Token} {tree : Tree}
      (derived : Derives (.operand tier) tokens tree) : Derives (.chain tier) tokens tree
  | joined {tier : Tier} {left right : List Token} {sign : Token} {op : BinaryOp}
      {leftTree rightTree : Tree} (joins : Joins tier sign op)
      (ofLeft : Derives (.chain tier) left leftTree)
      (ofRight : Derives (.operand tier) right rightTree) :
      Derives (.chain tier) (left ++ sign :: right) (.binary op leftTree rightTree)
  | applied {sign : Token} {op : UnaryOp} {tokens : List Token} {tree : Tree}
      (applies : Applies sign op) (derived : Derives .unary tokens tree) :
      Derives .unary (sign :: tokens) (.unary op tree)
  | unapplied {tokens : List Token} {tree : Tree} (derived : Derives .selected tokens tree) :
      Derives .unary tokens tree
  | object {tokens : List Token} {tree : Tree} (derived : Derives .primary tokens tree) :
      Derives .selected tokens tree
  | member {object : List Token} {tree : Tree} {token : Token} {field : String}
      (names : FieldName token field) (ofObject : Derives .selected object tree) :
      Derives .selected (object ++ [.dot, token]) (.member tree field)
  | method {object : List Token} {tree : Tree} {token : Token} {field : String}
      {arguments : List (List Token × Tree)} (names : FieldName token field)
      (ofObject : Derives .selected object tree)
      (each : ∀ argument ∈ arguments, Derives .choice argument.1 argument.2) :
      Derives .selected
        (object ++ .dot :: token :: .openParen :: (separated arguments ++ [.closeParen]))
        (.method tree field (arguments.map Prod.snd))
  | index {object place : List Token} {tree placeTree : Tree}
      (ofObject : Derives .selected object tree) (ofPlace : Derives .choice place placeTree) :
      Derives .selected (object ++ .openBracket :: (place ++ [.closeBracket]))
        (.index tree placeTree)
  | literal {token : Token} {tree : Tree} (stands : Literal token tree) :
      Derives .primary [token] tree
  | name (word : String) : Derives .primary [.name word] (.name word)
  | call (word : String) {arguments : List (List Token × Tree)}
      (each : ∀ argument ∈ arguments, Derives .choice argument.1 argument.2) :
      Derives .primary (.name word :: .openParen :: (separated arguments ++ [.closeParen]))
        (.call word (arguments.map Prod.snd))
  | enclosed {tokens : List Token} {tree : Tree} (derived : Derives .choice tokens tree) :
      Derives .primary (.openParen :: (tokens ++ [.closeParen])) tree
  | list {items : List (List Token × Tree)}
      (each : ∀ item ∈ items, Derives .choice item.1 item.2) :
      Derives .primary (.openBracket :: (separated items ++ [.closeBracket]))
        (.list (items.map Prod.snd))

theorem operator?_eq_some_iff {tier : Tier} {token : Token} {op : BinaryOp} :
    tier.operator? token = some op ↔ Joins tier token op := by
  constructor
  · intro found
    unfold Tier.operator? at found
    split at found <;> cases found <;> constructor
  · intro joins
    cases joins <;> rfl

theorem unaryOperator?_eq_some_iff {token : Token} {op : UnaryOp} :
    unaryOperator? token = some op ↔ Applies token op := by
  constructor
  · intro found
    unfold unaryOperator? at found
    split at found <;> cases found <;> constructor
  · intro applies
    cases applies <;> rfl

theorem literal?_eq_some_iff {token : Token} {tree : Tree} :
    literal? token = some tree ↔ Literal token tree := by
  constructor
  · intro found
    unfold literal? at found
    split at found <;> cases found <;> constructor
  · intro stands
    cases stands <;> rfl

def Phrase.read (fuel : Nat) : Phrase → Cursor → Except SyntaxFault (Tree × Cursor)
  | .choice => readChoice fuel
  | .chain tier => readTier fuel tier
  | .unary => readUnary fuel
  | .selected => readSelected fuel
  | .primary => readPrimary fuel

theorem readOperand_succ (fuel : Nat) (tier : Tier) (cursor : Cursor) :
    readOperand (fuel + 1) tier cursor = (Phrase.operand tier).read fuel cursor := by
  rw [readOperand]
  cases tier <;> rfl

theorem separated_cons_cons (first second : List Token × Tree)
    (rest : List (List Token × Tree)) :
    separated (first :: second :: rest) = first.1 ++ .comma :: separated (second :: rest) := by
  unfold separated
  rw [List.map_cons, List.map_cons, List.intercalate_cons_cons, List.append_assoc]
  rfl

theorem separated_singleton (argument : List Token × Tree) :
    separated [argument] = argument.1 := by
  unfold separated
  rw [List.map_singleton, List.intercalate_singleton]

theorem separated_cons (first : List Token × Tree) (others : List (List Token × Tree)) :
    ∃ more, separated (first :: others) = first.1 ++ more := by
  cases others with
  | nil => exact ⟨[], (separated_singleton first).trans (List.append_nil first.1).symm⟩
  | cons second others => exact ⟨_, separated_cons_cons first second others⟩

theorem mem_separated {token : Token} {arguments : List (List Token × Tree)}
    (member : token ∈ separated arguments) :
    token = .comma ∨ ∃ argument ∈ arguments, token ∈ argument.1 := by
  induction arguments with
  | nil => cases member
  | cons first rest ih =>
      cases rest with
      | nil =>
          rw [separated_singleton] at member
          exact Or.inr ⟨first, List.mem_cons_self, member⟩
      | cons second rest =>
          rw [separated_cons_cons, List.mem_append, List.mem_cons] at member
          rcases member with inFirst | comma | inRest
          · exact Or.inr ⟨first, List.mem_cons_self, inFirst⟩
          · exact Or.inl comma
          · refine (ih inRest).imp_right ?_
            rintro ⟨argument, present, inArgument⟩
            exact ⟨argument, List.mem_cons_of_mem _ present, inArgument⟩

theorem notMem_separated {token : Token} {arguments : List (List Token × Tree)}
    (other : token ≠ .comma) (each : ∀ argument ∈ arguments, token ∉ argument.1) :
    token ∉ separated arguments := by
  intro member
  rcases mem_separated member with comma | ⟨argument, present, inArgument⟩
  · exact other comma
  · exact each argument present inArgument

theorem Joins.ne_end {tier : Tier} {sign : Token} {op : BinaryOp} (joins : Joins tier sign op) :
    .endOfInput ≠ sign := by
  cases joins <;> exact Token.noConfusion

theorem Applies.ne_end {sign : Token} {op : UnaryOp} (applies : Applies sign op) :
    .endOfInput ≠ sign := by
  cases applies <;> exact Token.noConfusion

theorem Literal.ne_end {token : Token} {tree : Tree} (stands : Literal token tree) :
    .endOfInput ≠ token := by
  cases stands <;> exact Token.noConfusion

theorem FieldName.ne_end {token : Token} {field : String} (names : FieldName token field) :
    .endOfInput ≠ token := by
  cases names <;> exact Token.noConfusion

theorem Derives.no_end {phrase : Phrase} {tokens : List Token} {tree : Tree}
    (derived : Derives phrase tokens tree) : .endOfInput ∉ tokens := by
  induction derived with
  | unchosen _ ih | operand _ ih | unapplied _ ih | object _ ih => exact ih
  | choice _ _ _ ihCondition ihYes ihNo => simp [ihCondition, ihYes, ihNo]
  | joined joins _ _ ihLeft ihRight => simp [joins.ne_end, ihLeft, ihRight]
  | applied applies _ ih => simp [applies.ne_end, ih]
  | member names _ ih => simp [names.ne_end, ih]
  | method names _ _ ih ihEach =>
      simp [names.ne_end, ih, notMem_separated Token.noConfusion ihEach]
  | index _ _ ihObject ihPlace => simp [ihObject, ihPlace]
  | literal stands => simp [stands.ne_end]
  | name word => simp
  | call word _ ihEach => simp [notMem_separated Token.noConfusion ihEach]
  | enclosed _ ih => simp [ih]
  | list _ ihEach => simp [notMem_separated Token.noConfusion ihEach]

end StagedRuns.Expr
