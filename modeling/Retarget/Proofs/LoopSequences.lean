import Retarget.Proofs.LiteralTexts

/-! Sequences of loops in generated text. A call in a sequence is written where the templates put the sequence: loops
with an index write theirs twice, loops in lock step their first one. How often the text has the call is the product of
this and of what repeats the loop or the call inside the sequence. -/
namespace Retarget.CSharp

/-- How often a loop writes one of its sequences. -/
def sequenceWrites (sequences : Node) (index : Nat) : Nat :=
  match sequences.tag with
  | .forSequenceWithIndex => 2
  | .forSequenceZip => if index = 0 then 2 else 1
  | _ => 1

section Weights

variable (library : Library)

theorem pathWeights_append (tree node : Node) (position rest : List Nat) (found : tree.at? position = some node) :
    pathWeights library tree (position ++ rest) = pathWeights library tree position ++ pathWeights library node rest := by
  induction position generalizing tree with
  | nil =>
    cases found
    rfl
  | cons index position ih =>
    rw [Node.at?_cons, Option.bind_eq_some_iff] at found
    obtain ⟨child, isChild, below⟩ := found
    simp only [List.cons_append, pathWeights, isChild, ih child below]

/-- The way from a loop to a sequence, if the loop's parts go together. -/
theorem pathWeights_sequence (iterators sequences : Node) (body : List Node) (type : SemType) (index : Nat)
    (sequence : Node) (together : Node.Together iterators sequences)
    (isSequence : sequences.children[index]? = some sequence) :
    (pathWeights library ⟨.forStatement iterators sequences body, type⟩ [1, index]).prod =
      sequenceWrites sequences index := by
  have way : pathWeights library ⟨.forStatement iterators sequences body, type⟩ [1, index] =
      [1, (weights library sequences).getD index 0] := by
    have second : (Node.mk (.forStatement iterators sequences body) type).children[1]? = some sequences := rfl
    rw [pathWeights, second]
    simp only [pathWeights, isSequence]
    rfl
  rw [way, List.prod_cons, List.prod_singleton, Nat.one_mul]
  have all : ∀ parts ∈ loopParts,
      [Tag.forSequence, .forSequenceWithIndex, .forSequenceWithItems, .forSequenceZip].contains parts.2 = true := by decide
  have known := all _ together.1
  obtain ⟨kind, sequencesType⟩ := sequences
  have sized : index < (Node.mk kind sequencesType).children.length := (List.getElem?_eq_some_iff.mp isSequence).1
  cases kind with
  | forSequence other | forSequenceWithIndex other | forSequenceWithItems other =>
    obtain rfl : index = 0 := Nat.lt_one_iff.mp sized
    rfl
  | forSequenceZip sequences =>
    cases sequences with
    | nil => cases sized
    | cons first rest =>
      cases index with
      | zero => rfl
      | succ index =>
        have within : index < rest.length := Nat.lt_of_succ_lt_succ sized
        simp [weights, sequenceWrites, Node.tag, Kind.tag, List.getD, within]
  | _ => cases known

/-- The callee of a call is written with it. -/
theorem pathWeights_callee (function : Node) (args : List Node) (type : SemType) :
    pathWeights library ⟨.call function args, type⟩ [0] = [1] := rfl

end Weights

/-- In a tree there is a loop at a position, with a call at a position of one of its sequences, and no other local has
the name of the callee. -/
structure CalledInSequence (tree sequences sequence : Node) (outer : List Nat) (index : Nat) (inner : List Nat)
    (name : String) : Prop where
  loop : ∃ iterators body type, tree.at? outer = some ⟨.forStatement iterators sequences body, type⟩
  isSequence : sequences.children[index]? = some sequence
  call : ∃ calleeType args type, sequence.at? inner = some ⟨.call ⟨.localVar name, calleeType⟩ args, type⟩
  alone : (tree.walk.countP fun node => Leaf.localVar.text? node.kind == some name) = 1

section Calls

variable {tree sequences sequence : Node} {outer : List Nat} {index : Nat} {inner : List Nat} {name : String}
  (called : CalledInSequence tree sequences sequence outer index inner name) (library : Library)
include called

/-- A call in a sequence is written as often as the loop, for every time that the loop writes the sequence, and for every
time that this writes the call. -/
theorem copies_of_calledInSequence (loops : ∀ node ∈ tree.walk, node.PartsMatch) :
    copies library .localVar name tree =
      (pathWeights library tree outer).prod * sequenceWrites sequences index * (pathWeights library sequence inner).prod := by
  obtain ⟨iterators, body, type, isLoop⟩ := called.loop
  obtain ⟨calleeType, args, callType, isCall⟩ := called.call
  have together : Node.Together iterators sequences := (loops _ (tree.mem_walk_of_at? _ outer isLoop)).1
  have toSequence : (Node.mk (.forStatement iterators sequences body) type).at? [1, index] = some sequence := by
    have second : (Node.mk (.forStatement iterators sequences body) type).children[1]? = some sequences := rfl
    rw [Node.at?_cons, second, Option.bind_some, Node.at?_cons, called.isSequence]
    rfl
  have callee : tree.at? (outer ++ ([1, index] ++ (inner ++ [0]))) = some ⟨.localVar name, calleeType⟩ := by
    rw [tree.at?_append _ outer _ isLoop, Node.at?_append _ sequence _ _ toSequence, sequence.at?_append _ inner _ isCall]
    rfl
  -- No other local has the name, so the copies of the name are those along the way to the callee.
  have alone (other : List Nat) (node : Node) (found : tree.at? other = some node)
      (same : Leaf.localVar.text? node.kind = some name) : other = outer ++ ([1, index] ++ (inner ++ [0])) :=
    Node.eq_of_at?_of_countP _ tree node _ (Nat.le_of_eq called.alone) other _ found (beq_iff_eq.mpr same) callee
      (beq_self_eq_true _)
  rw [copies_eq_prod library .localVar name tree _ _ callee rfl alone,
    pathWeights_append library tree _ outer _ isLoop, pathWeights_append library _ sequence _ _ toSequence,
    pathWeights_append library sequence _ inner _ isCall, pathWeights_callee, List.prod_append, List.prod_append,
    List.prod_append, pathWeights_sequence library iterators sequences body type index sequence together called.isSequence,
    List.prod_singleton, Nat.mul_one, Nat.mul_assoc]

end Calls

/-- What is written of a call in a sequence of a loop does not depend on its callee's name elsewhere than where the name
itself is written. This is once exactly if the loop writes the sequence once and nothing around the loop, and nothing
around the call in the sequence, is repeated or left out. -/
theorem loops_repeat_calls :
    ∀ settings, ∃ built, profile settings = .ok built ∧
      ∀ declared (tree sequences sequence : Node) outer index inner name depth text, tree.LoopsMatch →
        CalledInSequence tree sequences sequence outer index inner name → Text.isAllBlank name.toList = false →
        built.render declared tree depth = .ok text →
        ∃ pieces : List (List Char),
          pieces.length = (pathWeights built.library tree outer).prod * sequenceWrites sequences index *
            (pathWeights built.library sequence inner).prod + 1 ∧
          (pieces.length = 2 ↔ sequenceWrites sequences index = 1 ∧
            ∀ weight ∈ pathWeights built.library tree outer ++ pathWeights built.library sequence inner, weight = 1) ∧
          ∀ other, Text.isAllBlank other.toList = false →
            built.render declared (tree.relabel (Leaf.localVar.put name other)) depth =
              .ok (String.ofList (other.toList.intercalate pieces)) := by
  intro settings
  obtain ⟨built, builds, _⟩ := exists_profile settings
  refine ⟨built, builds, fun declared tree sequences sequence outer index inner name depth text loops called visible
    rendered => ?_⟩
  obtain ⟨pieces, length, exchanged⟩ := render_exchanged builds declared .localVar name tree loops.2 depth visible text
    rendered
  rw [copies_of_calledInSequence called built.library loops.2] at length
  refine ⟨pieces, length, ?_, exchanged⟩
  rw [length, Nat.succ_inj, mul_eq_one, mul_eq_one, List.forall_mem_append, prod_eq_one_iff, prod_eq_one_iff]
  exact ⟨fun ⟨⟨outside, sequence⟩, inside⟩ => ⟨sequence, outside, inside⟩,
    fun ⟨sequence, outside, inside⟩ => ⟨⟨outside, sequence⟩, inside⟩⟩

/-- A call that a loop is to go over. -/
def fetched : Node := .call (.localVar "fetch" (.named "Function")) [] .void

/-- A loop over what is fetched. -/
def fetchingLoop (iterators sequences : Kind Node) : Node :=
  ⟨.forStatement ⟨iterators, .void⟩ ⟨sequences, .void⟩ [], .void⟩

def eachFetched : Node := fetchingLoop (.forIterator (.localVar "x" .void)) (.forSequence fetched)

def indexedFetched : Node :=
  fetchingLoop (.forIteratorWithIndex (.localVar "i" .void) (.localVar "x" .void)) (.forSequenceWithIndex fetched)

theorem eachFetched_calls :
    CalledInSequence eachFetched ⟨.forSequence fetched, .void⟩ fetched [] 0 [] "fetch" :=
  ⟨⟨_, _, _, rfl⟩, rfl, ⟨_, _, _, rfl⟩, by decide +kernel⟩

theorem indexedFetched_calls :
    CalledInSequence indexedFetched ⟨.forSequenceWithIndex fetched, .void⟩ fetched [] 0 [] "fetch" :=
  ⟨⟨_, _, _, rfl⟩, rfl, ⟨_, _, _, rfl⟩, by decide +kernel⟩

theorem eachFetched_calls_once : eachFetched.LoopsMatch ∧
    CalledInSequence eachFetched ⟨.forSequence fetched, .void⟩ fetched [] 0 [] "fetch" ∧
    ∃ built text pieces, profile {} = .ok built ∧ built.render [] eachFetched 1 = .ok text ∧ pieces.length = 2 ∧
      text = String.ofList ("fetch".toList.intercalate pieces) := by
  have loops : eachFetched.LoopsMatch := ⟨rfl, by decide +kernel⟩
  obtain ⟨built, builds, repeats⟩ := loops_repeat_calls {}
  obtain ⟨text, rendered⟩ :=
    exists_render_plain builds eachFetched rfl loops.2 (by decide +kernel) (by decide +kernel) 1
  obtain ⟨pieces, length, _, exchanged⟩ :=
    repeats [] eachFetched _ fetched [] 0 [] "fetch" 1 text loops eachFetched_calls (by decide) rendered
  have same := exchanged "fetch" (by decide)
  rw [Leaf.put_self, rendered] at same
  exact ⟨loops, eachFetched_calls, built, text, pieces, builds, rendered, length, Except.ok.inj same⟩

/-- A loop with an index calls for its sequence twice. -/
theorem indexed_loop_calls_twice : indexedFetched.LoopsMatch ∧
    CalledInSequence indexedFetched ⟨.forSequenceWithIndex fetched, .void⟩ fetched [] 0 [] "fetch" ∧
    ∃ built front middle back, profile {} = .ok built ∧ built.render [] indexedFetched 0 =
      .ok (String.ofList (front ++ "fetch".toList ++ middle ++ "fetch".toList ++ back)) := by
  have loops : indexedFetched.LoopsMatch := ⟨rfl, by decide +kernel⟩
  obtain ⟨built, builds, _⟩ := exists_profile {}
  obtain ⟨text, rendered⟩ :=
    exists_render_plain builds indexedFetched rfl loops.2 (by decide +kernel) (by decide +kernel) 0
  obtain ⟨pieces, length, exchanged⟩ :=
    render_exchanged builds [] .localVar "fetch" indexedFetched loops.2 0 (by decide) text rendered
  rw [copies_of_calledInSequence indexedFetched_calls built.library loops.2] at length
  obtain ⟨front, middle, back, rfl⟩ : ∃ front middle back, pieces = [front, middle, back] :=
    List.length_eq_three.mp length
  have same := exchanged "fetch" (by decide)
  rw [Leaf.put_self] at same
  exact ⟨loops, indexedFetched_calls, built, front, middle, back, builds, by
    rw [same, List.intercalate_cons_cons, List.intercalate_cons_cons, List.intercalate_singleton]
    simp [written]⟩

end Retarget.CSharp
