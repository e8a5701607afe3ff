import StagedRuns.Proofs.Expr.Soundness

/-!
The height of what is read. Depth does not bound height by itself: every tier of operators gives the
levels of its chain back before the tier around it begins one of its own, and parentheses let all of
that begin again. What a phrase can reach is told from the levels that are left where it begins, and
of all the levels together it is a bound that holds for texts of any length.
-/

namespace StagedRuns.Expr

/-- How high a choice can be that begins with some levels left. It takes a level itself, and between
it and a choice in parentheses there can be six chains, each as long as there are levels left. -/
def choiceHeight : (levels : Nat) → Nat
  | 0 => 0
  | levels + 1 => choiceHeight levels + 6 * levels + 2

/-- How many chains, one within the other, there can be between a phrase and its primaries. -/
def Phrase.chains : Phrase → Nat
  | .choice | .primary => 0
  | .selected | .unary => 1
  | .chain .product => 2
  | .chain .sum => 3
  | .chain .relation => 4
  | .chain .both => 5
  | .chain .either => 6

/-- How high a phrase can be that begins with some levels left. -/
def Phrase.maxHeight (phrase : Phrase) (levels : Nat) : Nat :=
  match phrase with
  | .choice => choiceHeight levels
  | other => choiceHeight levels + 1 + other.chains * levels

theorem choiceHeight_mono {fewer levels : Nat} (le : fewer ≤ levels) :
    choiceHeight fewer ≤ choiceHeight levels := by
  induction le with
  | refl => exact Nat.le_refl _
  | step _ ih =>
      refine Nat.le_trans ih ?_
      rw [Nat.succ_eq_add_one, choiceHeight]
      omega

namespace Phrase

theorem maxHeight_mono (phrase : Phrase) {fewer levels : Nat} (le : fewer ≤ levels) :
    phrase.maxHeight fewer ≤ phrase.maxHeight levels := by
  have choice := choiceHeight_mono le
  have chains := Nat.mul_le_mul_left phrase.chains le
  cases phrase with
  | choice => exact choice
  | chain tier => exact Nat.add_le_add (Nat.add_le_add_right choice 1) chains
  | unary | selected | primary => exact Nat.add_le_add (Nat.add_le_add_right choice 1) chains

theorem maxHeight_choice_succ (levels : Nat) :
    choice.maxHeight (levels + 1) = (chain .either).maxHeight levels + 1 := by
  simp only [maxHeight, chains, choiceHeight]
  omega

theorem maxHeight_chain (tier : Tier) (levels : Nat) :
    (chain tier).maxHeight levels = (operand tier).maxHeight levels + levels := by
  cases tier <;> simp only [operand, maxHeight, chains] <;> omega

theorem maxHeight_unary_succ (levels : Nat) :
    unary.maxHeight levels + 1 ≤ unary.maxHeight (levels + 1) := by
  have choice := choiceHeight_mono (Nat.le_add_right levels 1)
  simp only [maxHeight, chains]
  omega

theorem maxHeight_selected (levels : Nat) :
    selected.maxHeight levels = primary.maxHeight levels + levels := by
  simp only [maxHeight, chains]
  omega

theorem maxHeight_primary (levels : Nat) :
    primary.maxHeight levels = choice.maxHeight levels + 1 := by
  simp only [maxHeight, chains]
  omega

end Phrase

variable {fuel : Nat} {start cursor after : Cursor} {tree : Tree}

namespace Cursor

def room (cursor : Cursor) : Nat :=
  maxDepth - cursor.depth

theorem room_advance : start.advance.room = start.room :=
  rfl

theorem room_of_depth (same : after.depth = start.depth) : after.room = start.room :=
  congrArg (maxDepth - ·) same

theorem room_of_descend (descended : start.descend = .ok after) :
    start.room = after.room + 1 := by
  unfold descend at descended
  split at descended
  · cases descended
    unfold room
    dsimp only
    omega
  · cases descended

end Cursor

theorem heights_cons_le {bound : Nat} {trees : List Tree} (first : tree.height ≤ bound)
    (others : Tree.heights trees ≤ bound) : Tree.heights (tree :: trees) ≤ bound := by
  rw [Tree.heights]
  exact Nat.max_le.mpr ⟨first, others⟩

theorem literal_height {token : Token} (stands : Literal token tree) : tree.height = 1 := by
  cases stands <;> rw [Tree.height]

/-- Whether what is read stays below the bound of its phrase. What goes on from a tree adds at most
a level of height for each level that is left. -/
structure Low (fuel : Nat) : Prop where
  phrase : ∀ (phrase : Phrase) {start tree after},
    Phrase.read fuel phrase start = .ok (tree, after) → tree.height ≤ phrase.maxHeight start.room
  operand : ∀ {tier start tree after}, readOperand fuel tier start = .ok (tree, after) →
    tree.height ≤ (Phrase.operand tier).maxHeight start.room
  joined : ∀ {tier left start tree after}, readChain fuel tier left start = .ok (tree, after) →
    tree.height ≤ max left.height ((Phrase.operand tier).maxHeight start.room) + start.room
  selections : ∀ {object start tree after},
    readSelections fuel object start = .ok (tree, after) →
      tree.height ≤ max object.height (Phrase.primary.maxHeight start.room) + start.room
  arguments : ∀ {close start trees after},
    readArguments fuel close start = .ok (trees, after) →
      Tree.heights trees ≤ Phrase.choice.maxHeight start.room ∧ after.depth = start.depth
  items : ∀ {close start trees after}, readItems fuel close start = .ok (trees, after) →
    Tree.heights trees ≤ Phrase.choice.maxHeight start.room ∧ after.depth = start.depth

namespace Low

theorem choice (low : Low fuel) (read : readChoice (fuel + 1) start = .ok (tree, after)) :
    tree.height ≤ Phrase.choice.maxHeight start.room := by
  rw [readChoice] at read
  obtain ⟨deeper, descended, inside⟩ := Result.bind_eq_ok.mp read
  obtain ⟨⟨condition, cursor⟩, readCondition, outcome⟩ := Result.bind_eq_ok.mp inside
  have ofCondition := low.phrase (.chain .either) readCondition
  have sameDepth := ((reads_sound fuel).phrase (.chain .either) readCondition).depth
  rw [Cursor.room_of_descend descended, Phrase.maxHeight_choice_succ]
  dsimp only at outcome
  split at outcome
  · obtain ⟨⟨yes, afterYes⟩, readYes, colonNext⟩ := Result.bind_eq_ok.mp outcome
    obtain ⟨atNo, expected, noNext⟩ := Result.bind_eq_ok.mp colonNext
    obtain ⟨⟨no, afterNo⟩, readNo, done⟩ := Result.bind_eq_ok.mp noNext
    cases done
    have ofYes := low.phrase .choice readYes
    have yesDepth := ((reads_sound fuel).phrase .choice readYes).depth
    obtain ⟨_, rfl⟩ := Cursor.expect_ok expected
    have ofNo := low.phrase .choice readNo
    -- Both branches begin with the levels that the condition began with.
    have yesRoom : cursor.advance.room = deeper.room := Cursor.room_of_depth sameDepth
    have noRoom : afterYes.advance.room = deeper.room :=
      Cursor.room_of_depth (yesDepth.trans sameDepth)
    rw [yesRoom] at ofYes
    rw [noRoom] at ofNo
    have within : Phrase.choice.maxHeight deeper.room ≤
        (Phrase.chain .either).maxHeight deeper.room := by
      simp only [Phrase.maxHeight]
      omega
    dsimp only
    rw [Tree.height]
    omega
  · cases outcome
    exact Nat.le_succ_of_le ofCondition

theorem tier (low : Low fuel) {tier : Tier}
    (read : readTier (fuel + 1) tier start = .ok (tree, after)) :
    tree.height ≤ (Phrase.chain tier).maxHeight start.room := by
  rw [readTier] at read
  obtain ⟨⟨first, cursor⟩, readFirst, inside⟩ := Result.bind_eq_ok.mp read
  obtain ⟨⟨whole, last⟩, readRest, done⟩ := Result.bind_eq_ok.mp inside
  cases done
  have ofFirst := low.operand readFirst
  have ofRest := low.joined readRest
  rw [Cursor.room_of_depth ((reads_sound fuel).operand readFirst).depth] at ofRest
  rw [Phrase.maxHeight_chain]
  omega

theorem chain (low : Low fuel) {tier : Tier} {left : Tree}
    (read : readChain (fuel + 1) tier left start = .ok (tree, after)) :
    tree.height ≤ max left.height ((Phrase.operand tier).maxHeight start.room) + start.room := by
  rw [readChain] at read
  split at read
  · cases read
    omega
  · obtain ⟨deeper, descended, inside⟩ := Result.bind_eq_ok.mp read
    obtain ⟨⟨right, cursor⟩, readRight, readRest⟩ := Result.bind_eq_ok.mp inside
    have room : start.advance.room = deeper.room + 1 := Cursor.room_of_descend descended
    rw [Cursor.room_advance] at room
    have ofRight := low.operand readRight
    have ofRest := low.joined readRest
    rw [Cursor.room_of_depth ((reads_sound fuel).operand readRight).depth, Tree.height] at ofRest
    have fewer := (Phrase.operand tier).maxHeight_mono (Nat.le_add_right deeper.room 1)
    rw [room]
    omega

theorem unary (low : Low fuel) (read : readUnary (fuel + 1) start = .ok (tree, after)) :
    tree.height ≤ Phrase.unary.maxHeight start.room := by
  rw [readUnary] at read
  split at read
  · exact low.phrase .selected read
  · obtain ⟨deeper, descended, inside⟩ := Result.bind_eq_ok.mp read
    obtain ⟨⟨operand, cursor⟩, readOperand, done⟩ := Result.bind_eq_ok.mp inside
    cases done
    have room : start.advance.room = deeper.room + 1 := Cursor.room_of_descend descended
    rw [Cursor.room_advance] at room
    have ofOperand := low.phrase .unary readOperand
    have fewer := Phrase.maxHeight_unary_succ deeper.room
    rw [room, Tree.height]
    omega

theorem selected (low : Low fuel) (read : readSelected (fuel + 1) start = .ok (tree, after)) :
    tree.height ≤ Phrase.selected.maxHeight start.room := by
  rw [readSelected] at read
  obtain ⟨⟨object, cursor⟩, readObject, inside⟩ := Result.bind_eq_ok.mp read
  obtain ⟨⟨whole, last⟩, readRest, done⟩ := Result.bind_eq_ok.mp inside
  cases done
  have ofObject := low.phrase .primary readObject
  have ofRest := low.selections readRest
  rw [Cursor.room_of_depth ((reads_sound fuel).phrase .primary readObject).depth] at ofRest
  rw [Phrase.maxHeight_selected]
  omega

theorem behind (low : Low fuel) {object selection : Tree} {deeper : Cursor}
    (descended : start.descend = .ok deeper) (sameDepth : cursor.depth = deeper.depth)
    (higher : selection.height ≤
      max object.height (Phrase.choice.maxHeight deeper.room) + 1)
    (read : readSelections fuel selection cursor = .ok (tree, after)) :
    tree.height ≤ max object.height (Phrase.primary.maxHeight start.room) + start.room := by
  have ofRest := low.selections read
  have fewer := Phrase.primary.maxHeight_mono (Nat.le_add_right deeper.room 1)
  have primary := Phrase.maxHeight_primary deeper.room
  rw [Cursor.room_of_depth sameDepth] at ofRest
  rw [Cursor.room_of_descend descended]
  omega

theorem selecting (low : Low fuel) {object : Tree}
    (read : readSelections (fuel + 1) object start = .ok (tree, after)) :
    tree.height ≤ max object.height (Phrase.primary.maxHeight start.room) + start.room := by
  rw [readSelections] at read
  split at read
  · obtain ⟨deeper, descended, inside⟩ := Result.bind_eq_ok.mp read
    obtain ⟨⟨field, cursor⟩, named, readRest⟩ := Result.bind_eq_ok.mp inside
    obtain ⟨_, rfl⟩ := Cursor.field_ok named
    dsimp only at readRest
    split at readRest
    · obtain ⟨⟨trees, closed⟩, readTrees, behind⟩ := Result.bind_eq_ok.mp readRest
      obtain ⟨ofTrees, sameDepth⟩ := low.arguments readTrees
      refine low.behind descended sameDepth ?_ behind
      rw [Cursor.room_advance, Cursor.room_advance, Cursor.room_advance] at ofTrees
      dsimp only at ofTrees ⊢
      rw [Tree.height]
      omega
    · have sameDepth : deeper.advance.advance.depth = deeper.depth := rfl
      refine low.behind descended sameDepth ?_ readRest
      rw [Tree.height]
      omega
  · obtain ⟨deeper, descended, inside⟩ := Result.bind_eq_ok.mp read
    obtain ⟨⟨place, cursor⟩, readPlace, closeNext⟩ := Result.bind_eq_ok.mp inside
    obtain ⟨closed, expected, behind⟩ := Result.bind_eq_ok.mp closeNext
    have ofPlace := low.phrase .choice readPlace
    obtain ⟨_, rfl⟩ := Cursor.expect_ok expected
    have sameDepth : cursor.advance.depth = deeper.depth :=
      ((reads_sound fuel).phrase .choice readPlace).depth
    refine low.behind descended sameDepth ?_ behind
    rw [Cursor.room_advance] at ofPlace
    rw [Tree.height]
    omega
  · cases read
    omega

theorem primary (low : Low fuel) (read : readPrimary (fuel + 1) start = .ok (tree, after)) :
    tree.height ≤ Phrase.primary.maxHeight start.room := by
  rw [Phrase.maxHeight_primary]
  rw [readPrimary] at read
  split at read
  · dsimp only at read
    split at read
    · obtain ⟨⟨trees, closed⟩, readTrees, done⟩ := Result.bind_eq_ok.mp read
      cases done
      rw [Tree.height]
      exact Nat.succ_le_succ (low.arguments readTrees).1
    · cases read
      rw [Tree.height]
      omega
  · obtain ⟨⟨inner, cursor⟩, readInner, closeNext⟩ := Result.bind_eq_ok.mp read
    obtain ⟨closed, expected, done⟩ := Result.bind_eq_ok.mp closeNext
    cases done
    have ofInner := low.phrase .choice readInner
    rw [Cursor.room_advance] at ofInner
    exact Nat.le_succ_of_le ofInner
  · obtain ⟨⟨trees, closed⟩, readTrees, done⟩ := Result.bind_eq_ok.mp read
    cases done
    rw [Tree.height]
    exact Nat.succ_le_succ (low.arguments readTrees).1
  · split at read
    · rename_i stands
      cases read
      rw [literal_height (literal?_eq_some_iff.mp stands)]
      omega
    · cases read

theorem all (low : Low fuel) {close : Token} {trees : List Tree}
    (read : readArguments (fuel + 1) close start = .ok (trees, after)) :
    Tree.heights trees ≤ Phrase.choice.maxHeight start.room ∧ after.depth = start.depth := by
  rw [readArguments] at read
  split at read
  · cases read
    exact ⟨Nat.zero_le _, rfl⟩
  · exact low.items read

theorem some (low : Low fuel) {close : Token} {trees : List Tree}
    (read : readItems (fuel + 1) close start = .ok (trees, after)) :
    Tree.heights trees ≤ Phrase.choice.maxHeight start.room ∧ after.depth = start.depth := by
  rw [readItems] at read
  obtain ⟨⟨item, cursor⟩, readItem, inside⟩ := Result.bind_eq_ok.mp read
  have ofItem := low.phrase .choice readItem
  have sameDepth : cursor.depth = start.depth :=
    ((reads_sound fuel).phrase .choice readItem).depth
  dsimp only at inside
  split at inside
  · cases inside
    exact ⟨heights_cons_le ofItem (Nat.zero_le _), sameDepth⟩
  · obtain ⟨next, expected, itemsNext⟩ := Result.bind_eq_ok.mp inside
    obtain ⟨⟨items, last⟩, readRest, done⟩ := Result.bind_eq_ok.mp itemsNext
    cases done
    obtain ⟨_, rfl⟩ := Cursor.expect_ok expected
    obtain ⟨ofRest, restDepth⟩ := low.items readRest
    have room : cursor.advance.room = start.room := Cursor.room_of_depth sameDepth
    rw [room] at ofRest
    exact ⟨heights_cons_le ofItem ofRest, restDepth.trans sameDepth⟩

theorem zero : Low 0 where
  phrase := by
    intro phrase start tree after read
    cases phrase <;> cases read
  operand := by
    intro tier start tree after read
    cases read
  joined := by
    intro tier left start tree after read
    cases read
  selections := by
    intro object start tree after read
    cases read
  arguments := by
    intro close start trees after read
    cases read
  items := by
    intro close start trees after read
    cases read

theorem succ (low : Low fuel) : Low (fuel + 1) where
  phrase := by
    intro phrase start tree after read
    cases phrase with
    | choice => exact low.choice read
    | chain tier => exact low.tier read
    | unary => exact low.unary read
    | selected => exact low.selected read
    | primary => exact low.primary read
  operand := by
    intro tier start tree after read
    rw [readOperand_succ] at read
    exact low.phrase (.operand tier) read
  joined := low.chain
  selections := low.selecting
  arguments := low.all
  items := low.some

end Low

theorem reads_low (fuel : Nat) : Low fuel := by
  induction fuel with
  | zero => exact .zero
  | succ fuel ih => exact ih.succ

theorem height_of_parse {text : String} (parsed : parse text = .ok tree) :
    tree.height ≤ choiceHeight maxDepth := by
  obtain ⟨tokens, _, parsedTokens⟩ := Result.bind_eq_ok.mp parsed
  obtain ⟨⟨whole, last⟩, read, done⟩ := Result.bind_eq_ok.mp parsedTokens
  dsimp only at done
  split at done
  · cases done
    exact (reads_low (parseFuel tokens)).phrase .choice read
  · cases done

/-- A text of any length is parsed to a tree of bounded height only, and whatever is read, be it one
phrase or the arguments up to the token that closes them, is read back to the depth at which it
began. -/
theorem parse_height_le :
    (300 * maxDepth = 30000 ∧
        ∀ text tree, parse text = .ok tree → tree.height ≤ 300 * maxDepth) ∧
      (∀ fuel phrase start tree after, Phrase.read fuel phrase start = .ok (tree, after) →
        after.depth = start.depth) ∧
      ∀ fuel close start trees after, readArguments fuel close start = .ok (trees, after) →
        after.depth = start.depth := by
  refine ⟨⟨rfl, ?_⟩, ?_, ?_⟩
  · intro text tree parsed
    exact Nat.le_trans (height_of_parse parsed) (by decide +kernel)
  · intro fuel phrase start tree after read
    exact ((reads_sound fuel).phrase phrase read).depth
  · intro fuel close start trees after read
    exact ((reads_low fuel).arguments read).2

theorem indexed_height_le :
    (parse "[a][-1]" = .ok (.index (.list [.name "a"]) (.unary .negate (.number ⟨1, 0⟩))) ∧
        (Tree.index (.list [.name "a"]) (.unary .negate (.number ⟨1, 0⟩))).height ≤ 30000) ∧
      (Phrase.read 20 .choice ⟨[.name "a"], 99⟩ = .ok (.name "a", ⟨[], 99⟩) ∧
        (⟨[], 99⟩ : Cursor).depth = (⟨[.name "a"], 99⟩ : Cursor).depth) ∧
      readArguments 20 .closeBracket ⟨[.name "a", .closeBracket], 99⟩ =
          .ok ([.name "a"], ⟨[], 99⟩) ∧
        (⟨[], 99⟩ : Cursor).depth = (⟨[.name "a", .closeBracket], 99⟩ : Cursor).depth := by
  have scanned : scan "[a][-1]" = .ok [.openBracket, .name "a", .closeBracket, .openBracket,
      .minus, .number ⟨1, 0⟩, .closeBracket, .endOfInput] := by
    decide +kernel
  have parsed : parse "[a][-1]" =
      .ok (.index (.list [.name "a"]) (.unary .negate (.number ⟨1, 0⟩))) := by
    rw [parse, scanned, Result.ok_bind]
    rfl
  obtain ⟨⟨_, low⟩, phrases, arguments⟩ := parse_height_le
  exact ⟨⟨parsed, low _ _ parsed⟩, ⟨rfl, phrases 20 .choice _ _ _ rfl⟩, rfl,
    arguments 20 .closeBracket _ [.name "a"] _ rfl⟩

end StagedRuns.Expr
