import DirectoryLogin.Pattern.ByteRanges
import DirectoryLogin.Unicode.CharSet
import Std.Data.HashMap

namespace DirectoryLogin.ClassLayout

/-- The digest of some numbers, which gives a place in a table. -/
def slot (size : Nat) (numbers : List Nat) : Nat :=
  (numbers.foldl (fun (h : UInt64) n => (h ^^^ n.toUInt64) * 1099511628211)
    14695981039346656037).toNat % size

/-- States of one kind that have been laid out: how many states there are in all, how many ways lead out
of those of the class, and the states that are remembered. -/
structure Shared (α : Type) where
  states : Nat
  ways : Nat := 0
  remembered : Std.HashMap Nat (α × Nat) := ∅

namespace Shared

variable {α : Type} [DecidableEq α]

def find (s : Shared α) (size : Nat) (numbers : List Nat) (ways : Nat) (what : α) :
    Nat × Shared α :=
  let place := slot size numbers
  match s.remembered[place]? with
  | some (known, state) =>
    if known = what then (state, s) else fresh place
  | none => fresh place
where
  fresh (place : Nat) : Nat × Shared α :=
    (s.states, ⟨s.states + 1, s.ways + ways, s.remembered.insert place (what, s.states)⟩)

end Shared

/-- A way out of a state: a range of bytes and the state that they lead to. -/
abbrev Way := Nat × Nat × Nat

/-- A state on the path to the newest character: the ways that are known, and the bytes that lead on along
the path. -/
structure Node where
  ways : List Way := []
  onward : Option (Nat × Nat) := none

namespace Node

def close (node : Node) (next : Nat) : Node :=
  match node.onward with
  | some (low, high) => ⟨node.ways ++ [(low, high, next)], none⟩
  | none => node

end Node

/-- The places of the table of states that have the same ways. -/
def forwardMemory : Nat := 10000

/-- The state of a node whose ways are all known. -/
def settle (s : Shared (List Way)) (node : Node) : Nat × Shared (List Way) :=
  s.find forwardMemory (node.ways.flatMap fun (low, high, next) => [low, high, next])
    node.ways.length node.ways

def settlePath (target : Nat) : Shared (List Way) → List Node → Nat × Shared (List Way)
  | s, [] => (target, s)
  | s, node :: path =>
    let (next, s) := settlePath target s path
    settle s (node.close next)

/-- Adds the sequence of the next characters to the path of the ones before: what both begin with stays. -/
def extend (target : Nat) : Shared (List Way) → List Node → ByteSequence →
    List Node × Shared (List Way)
  | s, node :: path, range :: rest =>
    if node.onward = some range then
      let (path, s) := extend target s path rest
      (node :: path, s)
    else
      let (next, s) := settlePath target s path
      let node := node.close next
      ({ node with onward := some range } :: rest.map fun r => { onward := some r }, s)
  | s, path, _ => (path, s)

/-- The states and ways of a class that is read from the first byte of a character to the last, where
`states` are there before it. -/
def forward (states : Nat) (sequences : List ByteSequence) : Nat × Nat :=
  let target := states
  let (path, s) := sequences.foldl (fun (path, s) sequence => extend target s path sequence)
    (([{}], { states := states + 1 }) : List Node × Shared (List Way))
  let (_, s) := settlePath target s path
  (s.states - states, s.ways)

/-- The places of the table of states that lead on in the same way. -/
def backwardMemory : Nat := 1000

/-- The state that reads the bytes of a sequence backward, and goes on at `next`. -/
def chain : Shared Way → Nat → ByteSequence → Nat × Shared Way
  | s, next, [] => (next, s)
  | s, next, (low, high) :: rest =>
    let (state, s) := s.find backwardMemory [next, low, high] 0 (low, high, next)
    chain s state rest

/-- The states of a class that is read from the last byte of a character to the first, and the ways out of
its first state, where `states` are there before it. -/
def backward (states : Nat) (sequences : List ByteSequence) : Nat × Nat :=
  let s := sequences.foldl (fun s sequence => (chain s (states + 1) sequence).2)
    ({ states := states + 2 } : Shared Way)
  (s.states - states, sequences.length)

end DirectoryLogin.ClassLayout
