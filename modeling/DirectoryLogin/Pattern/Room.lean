import DirectoryLogin.Pattern.Basic
import DirectoryLogin.Pattern.ClassLayout
import DirectoryLogin.Text.Utf8

namespace DirectoryLogin

/-- What has been laid out of an automaton: its states, and the bytes that they take beyond what each
state takes. -/
structure Layout where
  states : Nat
  bytes : Nat

namespace Layout

def stateRoom : Nat := 32

/-- The bytes that a way from a fork to one of its branches takes. -/
def linkRoom : Nat := 4

/-- The bytes that a range of bytes takes in a state with several ways out. -/
def wayRoom : Nat := 8

def maxRoom : Nat := 10 * 1024 * 1024

def grow (states bytes : Nat) (l : Layout) : Option Layout :=
  let grown : Layout := ⟨l.states + states, l.bytes + bytes⟩
  if stateRoom * grown.states + grown.bytes ≤ maxRoom then some grown else none

/-- Goes on after a fork, or after a state with one way out. -/
def leave (isFork : Bool) (l : Layout) : Option Layout :=
  if isFork then l.grow 0 linkRoom else some l

end Layout

/-- A part of an automaton: adds its states to a layout if there is room, and tells whether it ends in a
fork. -/
abbrev Fragment := Layout → Option (Layout × Bool)

namespace Fragment

/-- States that take some bytes further, the last of which is no fork. -/
def sized (states bytes : Nat) : Fragment := fun l => do
  return (← l.grow states bytes, false)

def row (states : Nat) : Fragment :=
  sized states 0

def before (f g : Fragment) : Fragment := fun l => do
  let (l, isFork) ← f l
  g (← l.leave isFork)

/-- Further copies of a fragment after what has been laid out. -/
def further (f : Fragment) : Nat → Layout × Bool → Option (Layout × Bool)
  | 0, laid => some laid
  | n + 1, (l, isFork) => do further f n (← f (← l.leave isFork))

def copies (f : Fragment) : Nat → Fragment
  | 0 => row 1
  | n + 1 => fun l => do further f n (← f l)

def optional (f : Fragment) : Fragment := fun l => do
  let (l, isFork) ← f (← l.grow 1 0)
  return (← (← l.grow 1 (2 * Layout.linkRoom)).leave isFork, false)

def atLeastOnce (f : Fragment) : Fragment := fun l => do
  let (l, isFork) ← f l
  return (← (← l.grow 1 Layout.linkRoom).leave isFork, true)

/-- Copies of a fragment each of which may be the last. -/
def furtherOptional (f : Fragment) : Nat → Layout × Bool → Option (Layout × Bool)
  | 0, laid => some laid
  | n + 1, (l, isFork) => do
    let l ← (← l.grow 1 (2 * Layout.linkRoom)).leave isFork
    furtherOptional f n (← f l)

/-- As many copies as a repetition allows. `takesSome` tells that none of them is without characters. -/
def repeated (f : Fragment) (takesSome : Bool) : Nat → Option Nat → Fragment
  | 0, some 1 => optional f
  | 0, none => fun l =>
    if takesSome then do
      let (l, isFork) ← f (← l.grow 1 Layout.linkRoom)
      return (← l.leave isFork, true)
    else do
      let (l, isFork) ← f l
      return (← (← l.grow 3 (4 * Layout.linkRoom)).leave isFork, false)
  | 1, none => atLeastOnce f
  | least + 1, none => (copies f least).before (atLeastOnce f)
  | least, some most => fun l => do
    let (l, isFork) ← copies f least l
    if most ≤ least then return (l, isFork)
    let (l, isFork) ← furtherOptional f (most - least) (← l.grow 1 0, isFork)
    return (← l.leave isFork, false)

def choice : List Fragment → Fragment
  | [] => row 2
  | [f] => f
  | f :: g :: more => fun l => do
    let (l, first) ← f l
    let (l, second) ← g l
    let l ← l.grow 2 (2 * Layout.linkRoom)
    let l ← (← l.leave first).leave second
    let l ← more.foldlM (fun l h => do
      let (l, isFork) ← h l
      (← l.grow 0 Layout.linkRoom).leave isFork) l
    return (l, false)

/-- The states and further bytes of a tree of texts, of which the bytes up to here are read. Texts begin in
the same way up to where one of them ends; those after it begin a group of their own. -/
def textTree : Nat → List (List UInt8) → Nat × Nat
  | 0, _ => (0, 0)
  | fuel + 1, texts =>
    let groups := groupsOf texts
    let laid := groups.map fun group =>
      let firsts := (group.filterMap List.head?).eraseDups
      let inner := firsts.map fun b =>
        let rest := (group.filter (·.head? == some b)).map List.tail
        if rest.all List.isEmpty then (0, 0) else textTree fuel rest
      let states := inner.foldl (fun n r => n + r.1) (if firsts.isEmpty then 0 else 1)
      let ways := if firsts.length ≤ 1 then 0 else firsts.length
      (states, inner.foldl (fun n r => n + r.2) (Layout.wayRoom * ways))
    let links := (groups.filter (!·.isEmpty)).length + (groups.length - 1)
    laid.foldl (fun sum r => (sum.1 + r.1, sum.2 + r.2)) (1, Layout.linkRoom * links)
where
  /-- The texts between those that end here. -/
  groupsOf (texts : List (List UInt8)) : List (List (List UInt8)) :=
    let texts := match texts with
      | [] :: rest => [] :: rest.dropWhile List.isEmpty
      | _ => texts
    texts.foldr (fun text groups => match text, groups with
      | [], groups => [] :: groups
      | text, group :: groups => (text :: group) :: groups
      | text, [] => [[text]]) [[]]

def textsRoom (texts : List (List UInt8)) : Nat × Nat :=
  let (states, bytes) := textTree ((texts.map List.length).foldl max 0 + 1) texts
  (states + 1, bytes)

def byte (ranges : Nat) : Fragment :=
  sized 2 (Layout.wayRoom * ranges)

def character (backward : Bool) (sequences : List ByteSequence) : Fragment := fun l =>
  if backward then
    let (states, links) := ClassLayout.backward l.states sequences
    sized states (Layout.linkRoom * links) l
  else
    let (states, ways) := ClassLayout.forward l.states sequences
    sized states (Layout.wayRoom * ways) l

end Fragment

namespace Pattern

def texts? (backward : Bool) (p : Pattern) : Option (List (List UInt8)) :=
  p.branches.mapM fun branch => match branch with
    | literal text => some (if backward then (Text.utf8 text).reverse else Text.utf8 text)
    | _ => none

/-- The fragment of a pattern, of which the fragments of the branches are given. -/
def fragmentOf (backward : Bool) (p : Pattern) (branches : List Fragment) : Fragment :=
  match p.texts? backward with
  | some (first :: second :: more) =>
    let (states, bytes) := Fragment.textsRoom (first :: second :: more)
    Fragment.sized states bytes
  | _ => Fragment.choice branches

def fragments (backward : Bool) : Pattern → List Fragment
  | empty | look _ => [Fragment.row 1]
  | literal text => [Fragment.row (Text.utf8 text).length]
  | one accepted =>
    if accepted.ranges.all fun (_, high) => high < 0x80 then
      [Fragment.byte accepted.ranges.length]
    else
      [Fragment.character backward
        (accepted.ranges.flatMap fun (low, high) => ByteSequence.ofRange low high)]
  | group _ body =>
    let inner := fragmentOf backward body (fragments backward body)
    [if backward then inner else ((Fragment.row 1).before inner).before (Fragment.row 1)]
  | seq first rest =>
    let f := fragmentOf backward first (fragments backward first)
    let g := fragmentOf backward rest (fragments backward rest)
    [if backward then g.before f else f.before g]
  | alt first rest =>
    fragmentOf backward first (fragments backward first) :: fragments backward rest
  | times body least most _ =>
    [(fragmentOf backward body (fragments backward body)).repeated
      (body.takesSome && !body.hasEmptyClass) least most]

/-- The automaton of a pattern: it may begin anywhere, unless the pattern holds it at the end where reading
begins, and marks the whole match if it reads forward. -/
def automaton (backward : Bool) (p : Pattern) : Fragment :=
  let inner := fragmentOf backward p (fragments backward p)
  let isHeld := if backward then p.endsWith .textFinish else p.beginsWith .textStart
  let start := if isHeld then Fragment.row 1 else (Fragment.byte 1).repeated true 0 none
  let whole := if backward then inner.before (Fragment.row 1)
    else ((Fragment.row 1).before inner).before (Fragment.row 2)
  start.before whole

def fits (p : Pattern) : Bool :=
  (p.automaton false ⟨0, 0⟩).isSome && (p.automaton true ⟨0, 0⟩).isSome

end Pattern

end DirectoryLogin
