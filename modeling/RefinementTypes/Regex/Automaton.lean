import RefinementTypes.Regex.Node

/-! The automaton of a regular expression, and the search for a match with it. Only whether a text
holds a match is of interest, so groups and greed have no part here. -/

namespace RefinementTypes.Regex

/-- A step of an automaton, which names the steps that may follow by their numbers. -/
inductive Step
  | accept
  | take (set : CharSet) (next : Nat)
  | test (condition : Condition) (next : Nat)
  | fork (first second : Nat)

def addStep (step : Step) (steps : Array Step) : Nat × Array Step := (steps.size, steps.push step)

/-- Lays something out a number of times, each time in front of the last. -/
def layCopies (lay : Nat → Array Step → Nat × Array Step) (count next : Nat) (steps : Array Step) :
    Nat × Array Step :=
  Nat.repeat (fun (next, steps) => lay next steps) count (next, steps)

/-- Lays something out that may be left out, a number of times: what comes after one copy may be the
next copy or `next`. -/
def layOptional (lay : Nat → Array Step → Nat × Array Step) (count next : Nat)
    (steps : Array Step) : Nat × Array Step :=
  Nat.repeat (fun (inner, steps) =>
    let (entry, steps) := lay inner steps
    addStep (.fork entry next) steps) count (next, steps)

def layLoop (lay : Nat → Array Step → Nat × Array Step) (next : Nat) (steps : Array Step) :
    Nat × Array Step :=
  let (loop, steps) := addStep (.fork next next) steps
  let (entry, steps) := lay loop steps
  (loop, steps.setIfInBounds loop (.fork entry next))

/-- Lays out a repetition: the copies that must come are in front of those that may. -/
def layRepeated (lay : Nat → Array Step → Nat × Array Step) (repetition : Repetition) (next : Nat)
    (steps : Array Step) : Nat × Array Step :=
  let (next, steps) :=
    match repetition.most with
    | none => layLoop lay next steps
    | some most => layOptional lay (most - repetition.least) next steps
  layCopies lay repetition.least next steps

namespace Node

mutual

/-- Lays out the steps of an expression that goes on at the step `next`. Gives the number of its first
step with all steps. -/
def lay : Node → Nat → Array Step → Nat × Array Step
  | empty, next, steps => (next, steps)
  | literal flags letters, next, steps =>
    letters.foldr (fun code (next, steps) =>
      addStep (.take (letterSet flags.foldCase code) next) steps) (next, steps)
  | oneOf set, next, steps => addStep (.take set next) steps
  | notNewline, next, steps => addStep (.take newline.complement next) steps
  | anyChar, next, steps => addStep (.take .full next) steps
  | place condition, next, steps => addStep (.test condition next) steps
  | group body, next, steps => body.lay next steps
  | repeated body repetition, next, steps => layRepeated body.lay repetition next steps
  | sequence parts, next, steps => layAll parts next steps
  | choice parts, next, steps => layEither parts next steps

def layAll : List Node → Nat → Array Step → Nat × Array Step
  | [], next, steps => (next, steps)
  | part :: rest, next, steps =>
    let (next, steps) := layAll rest next steps
    part.lay next steps

def layEither : List Node → Nat → Array Step → Nat × Array Step
  | [], next, steps => addStep (.take .empty next) steps
  | part :: rest, next, steps =>
    let (others, steps) := layEither rest next steps
    let (entry, steps) := part.lay next steps
    addStep (.fork entry others) steps

end

end Node

structure Automaton where
  steps : Array Step
  start : Nat

/-- How far a search has come at a place: the place at which each step was last reached, counted from
one, the steps reached here that take a character, and whether a match has ended. -/
structure Reached where
  marks : Array Nat
  waiting : List Nat
  accepted : Bool

namespace Automaton

def ofNode (node : Node) : Automaton :=
  let (start, steps) := node.lay 0 #[.accept]
  ⟨steps, start⟩

/-- Follows steps that take no character. A step is followed once at a place, and leads to two others
at most, so `fuel` need not exceed twice the number of steps and the length of the list. -/
def follow (automaton : Automaton) (place : Place) (number : Nat) :
    Nat → List Nat → Reached → Reached
  | 0, _, reached | _ + 1, [], reached => reached
  | fuel + 1, index :: rest, reached =>
    if reached.marks.getD index number = number then
      automaton.follow place number fuel rest reached
    else
      let reached := { reached with marks := reached.marks.setIfInBounds index number }
      match automaton.steps[index]? with
      | none => automaton.follow place number fuel rest reached
      | some .accept => { reached with accepted := true }
      | some (.take _ _) =>
        automaton.follow place number fuel rest { reached with waiting := index :: reached.waiting }
      | some (.test condition next) =>
        if condition.holds place then automaton.follow place number fuel (next :: rest) reached
        else automaton.follow place number fuel rest reached
      | some (.fork first second) =>
        automaton.follow place number fuel (first :: second :: rest) reached

def after? (automaton : Automaton) (c : Char) (index : Nat) : Option Nat :=
  match automaton.steps[index]? with
  | some (.take set next) => if set.contains c.toNat then some next else none
  | _ => none

/-- Whether a match ends in the rest of a text, when it may begin at any place there or go on from the
steps `begun`. The place is the one with the given number, and `before` is the character before it. -/
def searchFrom (automaton : Automaton) (number : Nat) (marks : Array Nat) (begun : List Nat)
    (before : Option Char) : List Char → Bool
  | [] => (reach none).accepted
  | c :: rest =>
    let reached := reach (some c)
    reached.accepted ||
      automaton.searchFrom (number + 1) reached.marks
        (reached.waiting.filterMap (automaton.after? c)) (some c) rest
where
  /-- What is reached at the place, with the character after it. -/
  reach (after : Option Char) : Reached :=
    automaton.follow ⟨before, after⟩ number (3 * automaton.steps.size + 1)
      (automaton.start :: begun) ⟨marks, [], false⟩

def matchesIn (automaton : Automaton) (text : String) : Bool :=
  automaton.searchFrom 1 (Array.replicate automaton.steps.size 0) [] none text.toList

end Automaton

end RefinementTypes.Regex
