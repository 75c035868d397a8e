import ThumbDrive.Permission.Desk
import ThumbDrive.Schedule

/-! Any number of negotiations at one desk. -/
namespace ThumbDrive

/-- How far a negotiation is. -/
inductive Petition.Phase where
  | new
  | waiting (w : Wait)
  | over (r : Except IoError PermissionOutcome)
  | dropped

/-- Somebody's wish for access to a device. -/
structure Petition where
  device : DeviceInfo
  phase : Petition.Phase := .new

/-- The petitions in front of a desk. -/
structure PetitionQueue (ρ : Type) where
  desk : Desk ρ
  petitions : List Petition := []
  now : Nat := 0

namespace PetitionQueue
variable {ρ : Type} [Registry ρ]

/-- The phase a step of a negotiation leads to. -/
def phaseOf : Negotiation → Petition.Phase
  | .waiting w => .waiting w
  | .ended r => .over r

/-- Changes one petition. -/
def setPhase (i : Nat) (phase : Petition.Phase) (q : PetitionQueue ρ) : PetitionQueue ρ :=
  { q with petitions := q.petitions.modify i fun p => { p with phase } }

/-- The phase of a petition. -/
def phase? (q : PetitionQueue ρ) (i : Nat) : Option Petition.Phase := q.petitions[i]?.map (·.phase)

/-- Lets one negotiation go on. -/
def step (i : Nat) (q : PetitionQueue ρ) : PetitionQueue ρ :=
  match q.petitions[i]? with
  | none => q
  | some p =>
      match p.phase with
      | .new =>
          let (n, desk) := Desk.ensure p.device q.now q.desk
          { q with desk }.setPhase i (phaseOf n)
      | .waiting w =>
          let (n, desk) := Desk.check p.device q.now w q.desk
          { q with desk }.setPhase i (phaseOf n)
      | _ => q

/-- Gives a petition up. -/
def drop (i : Nat) (q : PetitionQueue ρ) : PetitionQueue ρ :=
  match q.phase? i with
  | some .new => q.setPhase i .dropped
  | some (.waiting w) => { q with desk := (Desk.abandon w q.desk).2 }.setPhase i .dropped
  | _ => q

instance : Concurrent (PetitionQueue ρ) where
  callCount := fun q => q.petitions.length
  isReady := fun q i =>
    match q.phase? i with
    | some .new => true
    | some (.waiting w) => q.desk.isDue q.now w
    | _ => false
  step := step
  isOver := fun q i =>
    match q.phase? i with
    | some .new => false
    | some (.waiting _) => false
    | _ => true
  timer? := fun q i =>
    match q.phase? i with
    | some (.waiting w) => some w.timer
    | _ => none
  drop := drop
  now := PetitionQueue.now
  setNow := fun now q => { q with now }

/-- Enough moments for all petitions: the polls of each, and one for every event. -/
def moments (q : PetitionQueue ρ) (events : Nat) : Nat :=
  events + 2 + q.petitions.length * q.desk.moments

end PetitionQueue
end ThumbDrive
