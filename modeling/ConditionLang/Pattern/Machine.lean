import ConditionLang.Pattern.Shape
import ConditionLang.Unicode.ByteTree
import Std.Data.HashMap.Basic

/-!
# The machines of patterns

A pattern with repetitions is short to write and large to write out. Before it is matched it is made into a machine that reads
a text byte by byte, one for reading forwards, which marks where groups begin and end, and one for reading backwards. A machine
is built state by state, and building stops as soon as it takes more room than a pattern is worth: 32 bytes for a state, 8 for a
range of bytes that a state tells from others, and 4 for a way out of a state that has several.

Only the room of a machine is kept here, not its states. The parts of a class that start or end alike are shared as far as a
table of the states built last goes (`Recent`).
-/

namespace ConditionLang

namespace Pattern

/-- The room that a machine takes so far. -/
structure Machine where
  /-- The number of its states, which is also the number of the next one. -/
  states : Nat
  /-- The bytes beyond the states themselves. -/
  further : Nat
  deriving Repr, DecidableEq, Inhabited

/-- The most bytes that a machine may take: ten times 2 ^ 20. -/
def roomLimit : Nat := 10485760

namespace Machine

/-- The bytes that a machine takes. -/
def room (m : Machine) : Nat :=
  32 * m.states + m.further

/-- A step of building, which fails when the machine takes too much room. -/
abbrev Build (α : Type) := StateT Machine Option α

/-- Stops if the machine takes too much room. -/
def settle (m : Machine) : Option (Unit × Machine) :=
  if m.room ≤ roomLimit then some ((), m) else none

/-- Adds a state that takes some bytes beyond itself, and gives its number. -/
def state (further : Nat) : Build Nat := fun m => do
  let (_, after) ← settle ⟨m.states + 1, m.further + further⟩
  return (m.states, after)

/-- Adds ways out of a state that has several. -/
def ways (count : Nat) : Build Unit := fun m =>
  settle { m with further := m.further + 4 * count }

/-- How the last state of a part goes on: by the one way it has, or by one more way. -/
inductive Exit where
  | only
  | further
  deriving Repr, DecidableEq, Inhabited

/-- Lets the last state of a part go on to another state. -/
def connect : Exit → Build Unit
  | .only => pure ()
  | .further => ways 1

/-! ## Classes -/

/-- A table of the states that were built last for keys of numbers. A key has one slot, from which it drives the one that was
there. -/
structure Recent where
  slots : Nat
  table : Std.HashMap Nat (List Nat × Nat)

namespace Recent

/-- The slot of a key. -/
def slot (r : Recent) (key : List Nat) : Nat :=
  let hash := key.foldl (fun (h : UInt64) n => (h ^^^ UInt64.ofNat n) * 1099511628211) 14695981039346656037
  hash.toNat % r.slots

/-- The state of a key, if it is in the table. -/
def find? (r : Recent) (key : List Nat) : Option Nat :=
  (r.table.get? (r.slot key)).bind fun (key', n) => if key' = key then some n else none

/-- Puts a state into the table. -/
def insert (r : Recent) (key : List Nat) (n : Nat) : Recent :=
  { r with table := r.table.insert (r.slot key) (key, n) }

/-- The state of a key, built with some further bytes unless it is in the table. -/
def obtain (key : List Nat) (further : Nat) : StateT Recent Build Nat := do
  match (← get).find? key with
  | some n => return n
  | none =>
    let n ← state further
    modify (·.insert key n)
    return n

end Recent

/-- Builds the states of a tree of encodings that is read forwards, the later bytes first, and gives the numbers by which its
first state is found again: of each branch the range of bytes and the state that follows. -/
def branches (target : Nat) : Unicode.ByteTree → StateT Recent Build (List Nat)
  | .done => return []
  | .branch first last .done next => return (← branches target next) ++ [first, last, target]
  | .branch first last below next => do
    let earlier ← branches target next
    let key ← branches target below
    let n ← Recent.obtain key (8 * (key.length / 3))
    return earlier ++ [first, last, n]

/-- Builds a chain of states that reads ranges of bytes backwards, up to the state `target`, and gives its first state. -/
def chain (target : Nat) : List (Nat × Nat) → StateT Recent Build Nat
  | [] => return target
  | (first, last) :: more => do chain (← Recent.obtain [target, first, last] 0) more

/-- Builds the states of a class of characters. -/
def set (d : Direction) (ranges : List (Nat × Nat)) : Build Unit :=
  if ranges.all (·.2 < 128) then do
    discard <| state 0
    discard <| state (8 * ranges.length)
  else
    match d with
    | .forwards => do
      let target ← state 0
      let build : StateT Recent Build Unit := do
        let key ← branches target (.ofRanges ranges)
        discard <| Recent.obtain key (8 * (key.length / 3))
      discard <| build.run ⟨10000, ∅⟩
    | .backwards => do
      discard <| state 0
      let target ← state 0
      let encodings := ranges.flatMap fun (first, last) => Unicode.encodedRanges first last
      let build : StateT Recent Build Unit := encodings.forM fun bytes => do
        discard <| chain target bytes
        ways 1
      discard <| build.run ⟨1000, ∅⟩

/-! ## Choices between literals -/

/-- Literals that start alike, joined. The branches of a node are kept in chunks, and a literal ends after each chunk but the
last one. -/
inductive Trie where
  | node (chunks : List (List (UInt8 × Trie)))
  deriving Inhabited

namespace Trie

/-- A node without branches. -/
def leaf : Trie := .node [[]]

/-- Whether a node has no branches. -/
def isLeaf : Trie → Bool
  | .node chunks => chunks.all List.isEmpty

/-- The trie with one more literal. Branches are added to the last chunk. -/
def insert : List UInt8 → Trie → Trie
  | [], .node chunks => if chunks.all List.isEmpty && 1 < chunks.length then .node chunks else .node (chunks ++ [[]])
  | b :: bytes, .node chunks =>
    let last := chunks.getLastD []
    let last := if last.any (·.1 == b) then last.map fun (b', t) => if b' = b then (b', insert bytes t) else (b', t)
      else last ++ [(b, insert bytes leaf)]
    .node (chunks.dropLast ++ [last])

mutual

/-- Builds the states of a node: one for each chunk that has branches, and one that leads to them and to the ends. -/
def build : Trie → Build Unit
  | .node chunks => do
    buildChunks chunks
    discard <| state (4 * (chunks.countP (!·.isEmpty) + (chunks.length - 1)))

/-- Builds the states of the chunks of a node. -/
def buildChunks : List (List (UInt8 × Trie)) → Build Unit
  | [] => return
  | chunk :: chunks => do
    buildBranches chunk
    if !chunk.isEmpty then discard <| state (if chunk.length = 1 then 0 else 8 * chunk.length)
    buildChunks chunks

/-- Builds the states below branches. -/
def buildBranches : List (UInt8 × Trie) → Build Unit
  | [] => return
  | (_, t) :: branches => do
    if !t.isLeaf then t.build
    buildBranches branches

end

end Trie

/-- Builds the states of a choice between literals. -/
def literals (d : Direction) (choices : List (List Char)) : Build Unit := do
  discard <| state 0
  let words := choices.map fun chars => (String.ofList chars).toUTF8.toList
  let words := if d = .backwards then words.map List.reverse else words
  (words.foldl (fun t word => t.insert word) Trie.leaf).build

/-! ## Shapes -/

/-- Builds so many copies of a part, one after another. -/
def copies (part : Build Exit) : Nat → Exit → Build Exit
  | 0, last => return last
  | count + 1, last => do
    let next ← part
    connect last
    copies part count next

/-- Builds exactly so many copies of a part. -/
def exactly (part : Build Exit) : Nat → Build Exit
  | 0 => do
    discard <| state 0
    return .only
  | count + 1 => do copies part count (← part)

/-- Builds so many copies of a part that each may be left out with all that follow it. -/
def optional (part : Build Exit) : Nat → Exit → Build Unit
  | 0, last => connect last
  | count + 1, last => do
    discard <| state 0
    let next ← part
    connect last
    ways 2
    optional part count next

/-- Builds a part that is repeated without an upper bound. -/
def atLeast (min : Nat) (takesSomething : Bool) (part : Build Exit) : Build Exit :=
  match min with
  | 0 =>
    if takesSomething then do
      discard <| state 0
      connect (← part)
      ways 1
      return .further
    else do
      connect (← part)
      discard <| state 0
      discard <| state 0
      discard <| state 0
      ways 4
      return .only
  | 1 => do
    connect (← part)
    discard <| state 0
    ways 1
    return .further
  | count + 2 => do
    let last ← exactly part (count + 1)
    connect (← part)
    connect last
    discard <| state 0
    ways 1
    return .further

/-- Builds a repetition of a part. -/
def repetition (min : Nat) (max : Option Nat) (takesSomething : Bool) (part : Build Exit) : Build Exit :=
  match max with
  | none => atLeast min takesSomething part
  | some max =>
    if min = 0 ∧ max = 1 then do
      discard <| state 0
      let last ← part
      discard <| state 0
      ways 2
      connect last
      return .only
    else if min = max then exactly part min
    else do
      let last ← exactly part min
      discard <| state 0
      optional part (max - min) last
      return .only

/-- The literals that a choice is between, if it is between two or more literals only. -/
def literals? : List Shape → Option (List (List Char))
  | [] | [_] => none
  | branches => branches.mapM fun
    | .literal chars => some chars
    | _ => none

mutual

/-- Builds the states of a shape. -/
def build (d : Direction) : Shape → Build Exit
  | .empty | .look _ => do
    discard <| state 0
    return .only
  | .literal chars => do
    (List.replicate (Text.byteLength chars) ()).forM fun _ => discard <| state 0
    return .only
  | .set _ ranges => do
    set d ranges
    return .only
  | .group p => do
    match d with
    | .forwards =>
      discard <| state 0
      let last ← build d p
      discard <| state 0
      connect last
      return .only
    | .backwards => build d p
  | .repeated min max _ p => repetition min max p.takesSomething (build d p)
  | .concat parts => buildParts d parts
  | .choice branches => do
    match literals? branches with
    | some choices => literals d choices
    | none => buildBranches d 0 branches
    return .only

/-- Builds parts one after the other, the first one to be read first. -/
def buildParts (d : Direction) : List Shape → Build Exit
  | [] => do
    discard <| state 0
    return .only
  | [p] => build d p
  | p :: ps => do
    match d with
    | .forwards =>
      let last ← build d p
      let final ← buildParts d ps
      connect last
      return final
    | .backwards =>
      let last ← buildParts d ps
      let final ← build d p
      connect last
      return final

/-- Builds the branches of a choice that follow so many others. The state that leads to them and the one that they lead to
are built after the second one. -/
def buildBranches (d : Direction) (earlier : Nat) : List Shape → Build Unit
  | [] => return
  | p :: ps => do
    connect (← build d p)
    if earlier = 1 then
      discard <| state 0
      discard <| state 0
    ways 1
    buildBranches d (earlier + 1) ps

end

/-- Builds what skips the text before a match, for which there is no need if a match is at the very start. -/
def skip (isAnchored : Bool) : Build Exit :=
  if isAnchored then do
    discard <| state 0
    return .only
  else atLeast 0 true do
    discard <| state 0
    discard <| state 8
    return .only

/-- Builds the whole machine of a shape, which ends in a state of its own. -/
def whole (d : Direction) (p : Shape) : Build Unit := do
  let first ← skip (p.isAnchored d)
  let last ← build d (.group p)
  discard <| state 0
  connect last
  connect first

end Machine

/-- Whether a choice is between so many literals that they are looked for without a machine. -/
def Shape.isWordList : Shape → Bool
  | .choice branches => 3000 ≤ branches.length && (Machine.literals? branches).isSome
  | _ => false

/-- Whether one of the machines of a pattern takes more room than it may. -/
def isTooLarge (p : Pattern) : Bool :=
  let shape := p.shape
  !shape.isWordList && [Direction.forwards, .backwards].any fun d => ((Machine.whole d shape).run ⟨0, 0⟩).isNone

end Pattern

end ConditionLang
