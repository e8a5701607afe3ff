import Mathlib.Data.List.Basic
import StagedRuns.Proofs.Expr.Grammar
import StagedRuns.Proofs.Result

/-!
What is read is derived. A reading function that succeeds has taken tokens off the front that the
grammar derives for its kind of phrase, and has left the depth as it was.
-/

namespace StagedRuns.Expr

variable {fuel : Nat} {start cursor after : Cursor} {tree : Tree}

namespace Cursor

theorem tokens_of_peek {token : Token} (found : start.peek = token)
    (more : token ≠ .endOfInput) : start.tokens = token :: start.advance.tokens := by
  unfold peek at found
  unfold advance
  cases tokens : start.tokens with
  | nil =>
      rw [tokens] at found
      exact absurd found.symm more
  | cons head tail =>
      rw [tokens] at found
      exact congrArg (· :: tail) found

theorem descend_ok (descended : start.descend = .ok after) :
    after = { start with depth := start.depth + 1 } := by
  unfold descend at descended
  split at descended
  · cases descended
    rfl
  · cases descended

theorem expect_ok {wanted : Token} (expected : start.expect wanted = .ok after) :
    start.peek = wanted ∧ after = start.advance := by
  unfold expect at expected
  split at expected
  · rename_i found
    cases expected
    exact ⟨found, rfl⟩
  · cases expected

theorem field_ok {word : String} (named : start.field = .ok (word, after)) :
    FieldName start.peek word ∧ after = start.advance := by
  unfold field at named
  split at named
  · rename_i found
    cases named
    rw [found]
    exact ⟨.name word, rfl⟩
  · rename_i found
    cases named
    rw [found]
    exact ⟨.within, rfl⟩
  · cases named

end Cursor

/-- Whether what lies between two cursors is a phrase with a tree, and their depth is the same. -/
structure Reads (phrase : Phrase) (start : Cursor) (tree : Tree) (after : Cursor) : Prop where
  derives : ∃ tokens, start.tokens = tokens ++ after.tokens ∧ Derives phrase tokens tree
  depth : after.depth = start.depth

/-- Whether what lies between two cursors goes on with a phrase that has a tree so far. -/
def Extends (phrase : Phrase) (left : Tree) (start : Cursor) (tree : Tree) (after : Cursor) :
    Prop :=
  ∀ tokens, Derives phrase tokens left →
    ∃ more, start.tokens = more ++ after.tokens ∧ Derives phrase (tokens ++ more) tree

structure ReadsAll (close : Token) (start : Cursor) (trees : List Tree) (after : Cursor) :
    Prop where
  derives : ∃ arguments, start.tokens = separated arguments ++ close :: after.tokens ∧
    (∀ argument ∈ arguments, Derives .choice argument.1 argument.2) ∧
      trees = arguments.map Prod.snd
  depth : after.depth = start.depth

structure Sound (fuel : Nat) : Prop where
  phrase : ∀ (phrase : Phrase) {start tree after},
    Phrase.read fuel phrase start = .ok (tree, after) → Reads phrase start tree after
  operand : ∀ {tier start tree after}, readOperand fuel tier start = .ok (tree, after) →
    Reads (.operand tier) start tree after
  joined : ∀ {tier left start tree after}, readChain fuel tier left start = .ok (tree, after) →
    Extends (.chain tier) left start tree after
  selections : ∀ {object start tree after},
    readSelections fuel object start = .ok (tree, after) →
      Extends .selected object start tree after
  arguments : ∀ {close start trees after}, close ≠ .endOfInput →
    readArguments fuel close start = .ok (trees, after) → ReadsAll close start trees after
  items : ∀ {close start trees after}, close ≠ .endOfInput →
    readItems fuel close start = .ok (trees, after) →
      ReadsAll close start trees after ∧ trees ≠ []

namespace Sound

theorem choice (sound : Sound fuel) (read : readChoice (fuel + 1) start = .ok (tree, after)) :
    Reads .choice start tree after := by
  rw [readChoice] at read
  obtain ⟨deeper, descended, inside⟩ := Result.bind_eq_ok.mp read
  obtain ⟨⟨condition, cursor⟩, readCondition, outcome⟩ := Result.bind_eq_ok.mp inside
  obtain rfl := Cursor.descend_ok descended
  obtain ⟨⟨tokens, split, ofCondition⟩, _⟩ := sound.phrase (.chain .either) readCondition
  dsimp only at outcome split
  split at outcome
  · rename_i asked
    obtain ⟨⟨yes, afterYes⟩, readYes, colonNext⟩ := Result.bind_eq_ok.mp outcome
    obtain ⟨atNo, expected, noNext⟩ := Result.bind_eq_ok.mp colonNext
    obtain ⟨⟨no, afterNo⟩, readNo, done⟩ := Result.bind_eq_ok.mp noNext
    cases done
    obtain ⟨⟨yesTokens, splitYes, ofYes⟩, _⟩ := sound.phrase .choice readYes
    obtain ⟨colon, rfl⟩ := Cursor.expect_ok expected
    obtain ⟨⟨noTokens, splitNo, ofNo⟩, _⟩ := sound.phrase .choice readNo
    refine ⟨⟨_, ?_, .choice ofCondition ofYes ofNo⟩, rfl⟩
    rw [split, Cursor.tokens_of_peek asked Token.noConfusion, splitYes,
      Cursor.tokens_of_peek colon Token.noConfusion, splitNo]
    simp only [Cursor.restore, List.append_assoc, List.cons_append]
  · cases outcome
    exact ⟨⟨tokens, split, .unchosen ofCondition⟩, rfl⟩

theorem tier (sound : Sound fuel) {tier : Tier}
    (read : readTier (fuel + 1) tier start = .ok (tree, after)) :
    Reads (.chain tier) start tree after := by
  rw [readTier] at read
  obtain ⟨⟨first, cursor⟩, readFirst, inside⟩ := Result.bind_eq_ok.mp read
  obtain ⟨⟨whole, last⟩, readRest, done⟩ := Result.bind_eq_ok.mp inside
  cases done
  obtain ⟨⟨tokens, split, ofFirst⟩, _⟩ := sound.operand readFirst
  obtain ⟨more, splitMore, derived⟩ := sound.joined readRest tokens (.operand ofFirst)
  refine ⟨⟨tokens ++ more, ?_, derived⟩, rfl⟩
  rw [split, splitMore, List.append_assoc]
  rfl

theorem chain (sound : Sound fuel) {tier : Tier} {left : Tree}
    (read : readChain (fuel + 1) tier left start = .ok (tree, after)) :
    Extends (.chain tier) left start tree after := by
  intro tokens ofLeft
  rw [readChain] at read
  split at read
  · cases read
    exact ⟨[], rfl, (List.append_nil tokens).symm ▸ ofLeft⟩
  · rename_i op found
    have joins := operator?_eq_some_iff.mp found
    have more : start.peek ≠ .endOfInput := joins.ne_end.symm
    obtain ⟨deeper, descended, inside⟩ := Result.bind_eq_ok.mp read
    obtain ⟨⟨right, cursor⟩, readRight, readRest⟩ := Result.bind_eq_ok.mp inside
    obtain rfl := Cursor.descend_ok descended
    obtain ⟨⟨rightTokens, splitRight, ofRight⟩, _⟩ := sound.operand readRight
    obtain ⟨rest, splitRest, derived⟩ :=
      sound.joined readRest (tokens ++ start.peek :: rightTokens) (.joined joins ofLeft ofRight)
    dsimp only at splitRight
    refine ⟨start.peek :: (rightTokens ++ rest), ?_, ?_⟩
    · rw [Cursor.tokens_of_peek rfl more, splitRight, splitRest, List.cons_append,
        List.append_assoc]
    · rwa [List.append_assoc, List.cons_append] at derived

theorem unary (sound : Sound fuel) (read : readUnary (fuel + 1) start = .ok (tree, after)) :
    Reads .unary start tree after := by
  rw [readUnary] at read
  split at read
  · obtain ⟨⟨tokens, split, derived⟩, depth⟩ := sound.phrase .selected read
    exact ⟨⟨tokens, split, .unapplied derived⟩, depth⟩
  · rename_i op found
    have applies := unaryOperator?_eq_some_iff.mp found
    have more : start.peek ≠ .endOfInput := applies.ne_end.symm
    obtain ⟨deeper, descended, inside⟩ := Result.bind_eq_ok.mp read
    obtain ⟨⟨operand, cursor⟩, readOperand, done⟩ := Result.bind_eq_ok.mp inside
    cases done
    obtain rfl := Cursor.descend_ok descended
    obtain ⟨⟨tokens, split, derived⟩, _⟩ := sound.phrase .unary readOperand
    dsimp only at split
    refine ⟨⟨start.peek :: tokens, ?_, .applied applies derived⟩, rfl⟩
    rw [Cursor.tokens_of_peek rfl more, split]
    rfl

theorem selected (sound : Sound fuel) (read : readSelected (fuel + 1) start = .ok (tree, after)) :
    Reads .selected start tree after := by
  rw [readSelected] at read
  obtain ⟨⟨object, cursor⟩, readObject, inside⟩ := Result.bind_eq_ok.mp read
  obtain ⟨⟨whole, last⟩, readRest, done⟩ := Result.bind_eq_ok.mp inside
  cases done
  obtain ⟨⟨tokens, split, ofObject⟩, _⟩ := sound.phrase .primary readObject
  obtain ⟨more, splitMore, derived⟩ := sound.selections readRest tokens (.object ofObject)
  refine ⟨⟨tokens ++ more, ?_, derived⟩, rfl⟩
  rw [split, splitMore, List.append_assoc]
  rfl

theorem behind (sound : Sound fuel) {tokens selection : List Token} {object : Tree}
    (derived : Derives .selected (tokens ++ selection) object)
    (read : readSelections fuel object cursor = .ok (tree, after))
    (split : start.tokens = selection ++ cursor.tokens) :
    ∃ more, start.tokens = more ++ after.tokens ∧ Derives .selected (tokens ++ more) tree := by
  obtain ⟨more, splitMore, whole⟩ := sound.selections read _ derived
  refine ⟨selection ++ more, ?_, ?_⟩
  · rw [split, splitMore, List.append_assoc]
  · rwa [List.append_assoc] at whole

theorem selecting (sound : Sound fuel) {object : Tree}
    (read : readSelections (fuel + 1) object start = .ok (tree, after)) :
    Extends .selected object start tree after := by
  intro tokens ofObject
  rw [readSelections] at read
  split at read
  · rename_i dot
    obtain ⟨deeper, descended, inside⟩ := Result.bind_eq_ok.mp read
    obtain ⟨⟨field, cursor⟩, named, readRest⟩ := Result.bind_eq_ok.mp inside
    obtain ⟨names, rfl⟩ := Cursor.field_ok named
    have same : deeper.tokens = start.tokens := by rw [Cursor.descend_ok descended]
    have front : start.tokens = .dot :: deeper.advance.peek :: deeper.advance.advance.tokens := by
      rw [← Cursor.tokens_of_peek rfl names.ne_end.symm,
        Cursor.tokens_of_peek dot Token.noConfusion]
      simp only [Cursor.advance, same]
    dsimp only at readRest
    split at readRest
    · rename_i opened
      obtain ⟨⟨trees, closed⟩, readTrees, behind⟩ := Result.bind_eq_ok.mp readRest
      obtain ⟨⟨arguments, splitArguments, each, rfl⟩, _⟩ :=
        sound.arguments Token.noConfusion readTrees
      refine sound.behind (.method names ofObject each) behind ?_
      rw [front, Cursor.tokens_of_peek opened Token.noConfusion, splitArguments]
      simp only [List.append_assoc, List.cons_append, List.nil_append]
    · refine sound.behind (.member names ofObject) readRest ?_
      rw [front]
      rfl
  · rename_i bracket
    obtain ⟨deeper, descended, inside⟩ := Result.bind_eq_ok.mp read
    obtain ⟨⟨place, cursor⟩, readPlace, closeNext⟩ := Result.bind_eq_ok.mp inside
    obtain ⟨closed, expected, behind⟩ := Result.bind_eq_ok.mp closeNext
    have same : deeper.tokens = start.tokens := by rw [Cursor.descend_ok descended]
    obtain ⟨⟨placeTokens, splitPlace, ofPlace⟩, _⟩ := sound.phrase .choice readPlace
    obtain ⟨close, rfl⟩ := Cursor.expect_ok expected
    rw [Cursor.advance, same] at splitPlace
    refine sound.behind (.index ofObject ofPlace) behind ?_
    rw [Cursor.tokens_of_peek bracket Token.noConfusion, Cursor.advance, splitPlace,
      Cursor.tokens_of_peek close Token.noConfusion]
    simp only [List.append_assoc, List.cons_append, List.nil_append]
  · cases read
    exact ⟨[], rfl, (List.append_nil tokens).symm ▸ ofObject⟩

theorem primary (sound : Sound fuel) (read : readPrimary (fuel + 1) start = .ok (tree, after)) :
    Reads .primary start tree after := by
  rw [readPrimary] at read
  split at read
  · rename_i word found
    have front := Cursor.tokens_of_peek found Token.noConfusion
    dsimp only at read
    split at read
    · rename_i opened
      obtain ⟨⟨trees, closed⟩, readTrees, done⟩ := Result.bind_eq_ok.mp read
      cases done
      obtain ⟨⟨arguments, split, each, rfl⟩, depth⟩ := sound.arguments Token.noConfusion readTrees
      refine ⟨⟨_, ?_, .call word each⟩, depth⟩
      rw [front, Cursor.tokens_of_peek opened Token.noConfusion, split]
      simp only [List.append_assoc, List.cons_append, List.nil_append]
    · cases read
      exact ⟨⟨_, front, .name word⟩, rfl⟩
  · rename_i opened
    obtain ⟨⟨inner, cursor⟩, readInner, closeNext⟩ := Result.bind_eq_ok.mp read
    obtain ⟨closed, expected, done⟩ := Result.bind_eq_ok.mp closeNext
    cases done
    obtain ⟨⟨tokens, split, derived⟩, depth⟩ := sound.phrase .choice readInner
    obtain ⟨close, rfl⟩ := Cursor.expect_ok expected
    refine ⟨⟨_, ?_, .enclosed derived⟩, depth⟩
    rw [Cursor.tokens_of_peek opened Token.noConfusion, split,
      Cursor.tokens_of_peek close Token.noConfusion]
    simp only [List.append_assoc, List.cons_append, List.nil_append]
  · rename_i opened
    obtain ⟨⟨trees, closed⟩, readTrees, done⟩ := Result.bind_eq_ok.mp read
    cases done
    obtain ⟨⟨items, split, each, rfl⟩, depth⟩ := sound.arguments Token.noConfusion readTrees
    refine ⟨⟨_, ?_, .list each⟩, depth⟩
    rw [Cursor.tokens_of_peek opened Token.noConfusion, split]
    simp only [List.append_assoc, List.cons_append, List.nil_append]
  · split at read
    · rename_i stands
      cases read
      have literal := literal?_eq_some_iff.mp stands
      exact ⟨⟨[start.peek], Cursor.tokens_of_peek rfl literal.ne_end.symm, .literal literal⟩, rfl⟩
    · cases read

theorem all (sound : Sound fuel) {close : Token} {trees : List Tree} (more : close ≠ .endOfInput)
    (read : readArguments (fuel + 1) close start = .ok (trees, after)) :
    ReadsAll close start trees after := by
  rw [readArguments] at read
  split at read
  · rename_i closed
    cases read
    refine ⟨⟨[], Cursor.tokens_of_peek closed more, ?_, rfl⟩, rfl⟩
    intro argument none
    cases none
  · exact (sound.items more read).1

theorem some (sound : Sound fuel) {close : Token} {trees : List Tree} (more : close ≠ .endOfInput)
    (read : readItems (fuel + 1) close start = .ok (trees, after)) :
    ReadsAll close start trees after ∧ trees ≠ [] := by
  rw [readItems] at read
  obtain ⟨⟨item, cursor⟩, readItem, inside⟩ := Result.bind_eq_ok.mp read
  obtain ⟨⟨tokens, split, derived⟩, depth⟩ := sound.phrase .choice readItem
  dsimp only at inside
  split at inside
  · rename_i closed
    cases inside
    refine ⟨⟨⟨[(tokens, item)], ?_, ?_, rfl⟩, depth⟩, List.cons_ne_nil _ _⟩
    · rw [split, separated_singleton, Cursor.tokens_of_peek closed more]
    · intro argument member
      rw [List.mem_singleton.mp member]
      exact derived
  · obtain ⟨next, expected, itemsNext⟩ := Result.bind_eq_ok.mp inside
    obtain ⟨⟨items, last⟩, readRest, done⟩ := Result.bind_eq_ok.mp itemsNext
    cases done
    obtain ⟨comma, rfl⟩ := Cursor.expect_ok expected
    obtain ⟨⟨⟨rest, splitRest, each, rfl⟩, restDepth⟩, occupied⟩ := sound.items more readRest
    cases rest with
    | nil => exact absurd rfl occupied
    | cons second rest =>
        refine ⟨⟨⟨(tokens, item) :: second :: rest, ?_, ?_, rfl⟩, restDepth.trans depth⟩,
          List.cons_ne_nil _ _⟩
        · rw [split, separated_cons_cons, Cursor.tokens_of_peek comma Token.noConfusion, splitRest]
          simp only [List.append_assoc, List.cons_append]
        · intro argument member
          rcases List.mem_cons.mp member with rfl | inRest
          · exact derived
          · exact each argument inRest

theorem zero : Sound 0 where
  phrase := by
    intro phrase start tree after read
    cases phrase <;> cases read
  operand := by
    intro tier start tree after read
    cases read
  joined := by
    intro tier left start tree after read
    cases read
  selections := by
    intro object start tree after read
    cases read
  arguments := by
    intro close start trees after more read
    cases read
  items := by
    intro close start trees after more read
    cases read

theorem succ (sound : Sound fuel) : Sound (fuel + 1) where
  phrase := by
    intro phrase start tree after read
    cases phrase with
    | choice => exact sound.choice read
    | chain tier => exact sound.tier read
    | unary => exact sound.unary read
    | selected => exact sound.selected read
    | primary => exact sound.primary read
  operand := by
    intro tier start tree after read
    rw [readOperand_succ] at read
    exact sound.phrase (.operand tier) read
  joined := sound.chain
  selections := sound.selecting
  arguments := sound.all
  items := sound.some

end Sound

theorem reads_sound (fuel : Nat) : Sound fuel := by
  induction fuel with
  | zero => exact .zero
  | succ fuel ih => exact ih.succ

theorem derives_of_parseTokens {words : List Token} (inner : .endOfInput ∉ words)
    (parsed : parseTokens (words ++ [.endOfInput]) = .ok tree) : Derives .choice words tree := by
  unfold parseTokens at parsed
  generalize parseFuel (words ++ [.endOfInput]) = fuel at parsed
  obtain ⟨⟨whole, last⟩, read, done⟩ := Result.bind_eq_ok.mp parsed
  obtain ⟨⟨tokens, split, derived⟩, _⟩ := (reads_sound fuel).phrase .choice read
  dsimp only at done split
  split at done
  · rename_i ended
    cases done
    -- No phrase holds the end of the input, so it is still there, and the words are before it.
    cases rest : last.tokens with
    | nil =>
        rw [rest, List.append_nil] at split
        have member : .endOfInput ∈ tokens := split ▸ List.mem_append_right words List.mem_cons_self
        exact absurd member derived.no_end
    | cons head tail =>
        rw [Cursor.peek, rest] at ended
        obtain rfl : head = .endOfInput := ended
        rw [rest] at split
        obtain ⟨rfl, _⟩ := (List.append_cons_inj_of_notMem inner List.not_mem_nil).mp split
        exact derived
  · cases done

end StagedRuns.Expr
