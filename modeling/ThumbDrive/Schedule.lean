/-! Running concurrent calls under one clock.

A system of calls says which of them can do something and what it is. The schedule runs whatever
is ready, in rounds, and moves the clock only when nothing is: to the next timer of a call, the
next event from outside, or the moment at which the calls are given up. -/
namespace ThumbDrive

/-- Calls side by side. -/
class Concurrent (σ : Type) where
  /-- Number of calls. -/
  callCount : σ → Nat
  /-- Whether a call can do something now. -/
  isReady : σ → Nat → Bool
  /-- Lets a call do one step. -/
  step : Nat → σ → σ
  /-- Whether a call has come to its end. -/
  isOver : σ → Nat → Bool
  /-- When a call can do something even if nothing else happens. -/
  timer? : σ → Nat → Option Nat
  /-- Gives a call up. -/
  drop : Nat → σ → σ
  /-- The clock. -/
  now : σ → Nat
  /-- Moves the clock. -/
  setNow : Nat → σ → σ

namespace Schedule
variable {σ : Type} [Concurrent σ]

/-- The calls of a system. -/
def calls (s : σ) : List Nat := List.range (Concurrent.callCount s)

/-- Lets every call that is ready do one step. -/
def round (s : σ) : σ :=
  (calls s).foldl (fun s i => if Concurrent.isReady s i then Concurrent.step i s else s) s

/-- Rounds until nothing is ready, at most so many. -/
def settle : Nat → σ → σ
  | 0, s => s
  | rounds + 1, s =>
      if (calls s).any (Concurrent.isReady s) then settle rounds (round s) else s

/-- Rounds that are enough to settle: a call does a few steps, and the calls may have to wait for
each other. -/
def rounds (s : σ) : Nat := 16 * (Concurrent.callCount s + 1)

/-- Something that happens to the system from outside, and when. -/
structure Event (σ : Type) where
  time : Nat
  act : σ → σ

/-- The earliest of some times. -/
def earliest : List Nat → Option Nat
  | [] => none
  | t :: ts =>
      match earliest ts with
      | none => some t
      | some u => some (min t u)

/-- The next moment at which something happens: a timer, an event, or the end. -/
def nextMoment (s : σ) (events : List (Event σ)) (dropAt : Option Nat) : Option Nat :=
  earliest ((calls s).filterMap (Concurrent.timer? s) ++ events.map Event.time ++ dropAt.toList)

/-- How a run ended. -/
inductive Ending where
  | finished
  | dropped
  deriving DecidableEq, Repr

/-- Runs the calls to their end, through at most `moments` moments of the clock. -/
def run : (moments : Nat) → (events : List (Event σ)) → (dropAt : Option Nat) → σ → Ending × σ
  | 0, _, _, s => (.dropped, s)
  | moments + 1, events, dropAt, s =>
      let s := settle (rounds s) s
      if (calls s).all (Concurrent.isOver s) then (.finished, s)
      else
        match nextMoment s events dropAt with
        | none => (.dropped, s)
        | some t =>
            let s := Concurrent.setNow t s
            if dropAt = some t then
              (.dropped, (calls s).foldl (fun s i => Concurrent.drop i s) s)
            else
              let s := (events.filter fun e => e.time == t).foldl (fun s e => e.act s) s
              run moments (events.filter fun e => e.time != t) dropAt s

end Schedule
end ThumbDrive
