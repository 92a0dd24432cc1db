import Explainer.Markup.Subtree

/-!
# Readings

A reading is an attempt to read the markup as far as some place: what has been built so far, in
the order of the markup, and the open elements there. Several attempts may agree on where they
are and differ in how they got there; they are one reading with several tracks. A track is a
stack of frames, the latest first, each with the state after it. Frames carry marks, so that
tracks with a common past can be told from tracks that only look alike.
-/

namespace Explainer.Markup

/-- A step of a track: a subtree, or a gap where skipping began, and where it led. -/
structure Frame where
  mark : Nat
  subtree : Option Subtree
  state : State
  place : Place
  /-- What the faults up to here cost. -/
  cost : Nat
  /-- How much has been built up to here. -/
  progress : Nat

/-- A stack of frames, the latest first. -/
abbrev Track := List Frame

/-- Whether a reading goes on. -/
inductive Status where
  | active
  /-- Waits with a token that does not fit. -/
  | paused (token : Subtree)
  | halted

/-- A state that a reading has been in before skipping began, and how far back. -/
structure Recall where
  place : Place
  depth : Nat
  state : State

/-- An attempt to read the markup. -/
structure Reading where
  /-- The top frame, common to all tracks but for its subtree. -/
  top : Frame
  tracks : List Track
  names : List ElementName
  status : Status
  /-- The progress at the last fault. -/
  progressAtFault : Nat
  recalls : List Recall

/-- How a reading compares with others. -/
structure Standing where
  cost : Nat
  progress : Nat
  faulty : Bool

/-- The outcome of comparing two readings: which one is better, and whether by so much that the
other is dropped. -/
inductive Preference where
  | takeFirst
  | preferFirst
  | neither
  | preferSecond
  | takeSecond
deriving DecidableEq

namespace Track

/-- Whether two frames are in the same situation. -/
def meets (a b : Frame) : Bool :=
  a.state = b.state && a.place.byte = b.place.byte && a.cost = b.cost

/-- Whether two steps need not be told apart. -/
def sameStep (a b : Frame) : Bool :=
  match a.subtree, b.subtree with
  | none, none => true
  | some s, some t => s.sameReading t
  | _, _ => false

/-- What a track adds to tracks that end in the same situation: nothing if it only repeats one of
them, else a track that shares with one of them as much as it can. -/
def joining : Nat → List Track → Track → Option Track
  | 0, _, _ => none
  | _, _, [] => none
  | _, _, [_] => none
  | fuel + 1, known, top :: below :: rest =>
    let candidate := known.find? fun
      | top' :: below' :: _ => sameStep top' top && (below'.mark = below.mark || meets below' below)
      | _ => false
    match candidate with
    | some (top' :: below' :: _) =>
      if below'.mark = below.mark then none
      else
        let shared := known.filterMap fun
          | t :: b :: r => if sameStep t top' && b.mark = below'.mark then some (b :: r) else none
          | _ => none
        (joining fuel shared ({ below with mark := below'.mark } :: rest)).map (top' :: ·)
    | _ => match known with
      | (top' :: _) :: _ => some ({ top with mark := top'.mark } :: below :: rest)
      | _ => some (top :: below :: rest)

/-- Adds a track to tracks that end in the same situation. -/
def join (known : List Track) (t : Track) : List Track :=
  match joining (t.length + 1) known t with
  | some t => known ++ [t]
  | none => known

/-- Takes `n` steps back, counting neither comments nor skipped stretches: the subtrees of the
steps, and what is left of the track. -/
def back? : Nat → Track → Option (List Subtree × Track)
  | 0, t => some ([], t)
  | _, [] => none
  | _, [_] => none
  | n + 1, f :: rest =>
    match f.subtree with
    | none => back? n rest
    | some s =>
      (back? (if s.isBeside then n + 1 else n) rest).map fun (ss, t) => (ss ++ [s], t)

end Track

namespace Reading

def start (s : Text) : Reading :=
  let f : Frame := ⟨0, none, .start, .start s, 0, 0⟩
  ⟨f, [[f]], [], .active, 0, []⟩

def state (r : Reading) : State := r.top.state

def place (r : Reading) : Place := r.top.place

def isActive (r : Reading) : Bool := match r.status with
  | .active => true
  | _ => false

def isPaused (r : Reading) : Bool := match r.status with
  | .paused _ => true
  | _ => false

/-- Whether a reading has been given up. -/
def isHalted (r : Reading) : Bool := match r.status with
  | .halted => true
  | _ => false

/-- Whether the latest step of a reading is the gap where skipping began. -/
def atGap (r : Reading) : Bool :=
  r.state = .skipping && (match r.tracks with
    | (f :: _) :: _ => f.subtree.isNone
    | _ => false)

def cost (r : Reading) : Nat :=
  r.top.cost + if r.isPaused || r.atGap then prices.stretch else 0

def progressSinceFault (r : Reading) : Nat := r.top.progress - r.progressAtFault

def standing (r : Reading) : Standing :=
  ⟨r.cost + if r.isPaused then prices.tree else 0, r.progressSinceFault,
    r.isPaused || r.state = .skipping⟩

/-- The difference of cost, weighted with progress, beyond which a reading is dropped. -/
def maxDifference : Nat := 18 * 100

def compare (a b : Standing) : Preference :=
  if !a.faulty && b.faulty then
    if a.cost < b.cost then .takeFirst else .preferFirst
  else if a.faulty && !b.faulty then
    if b.cost < a.cost then .takeSecond else .preferSecond
  else if a.cost < b.cost then
    if maxDifference < (b.cost - a.cost) * (1 + a.progress) then .takeFirst else .preferFirst
  else if b.cost < a.cost then
    if maxDifference < (a.cost - b.cost) * (1 + b.progress) then .takeSecond else .preferSecond
  else .neither

/-- Adds a step to every track of a reading. -/
def push (r : Reading) (mark : Nat) (subtree : Option Subtree) (state : State) : Reading :=
  let top : Frame := match subtree with
    | none => { r.top with mark, state, subtree }
    | some t =>
      ⟨mark, subtree, state, t.stop, r.top.cost + t.cost, r.top.progress + t.progress⟩
  { r with
    top
    tracks := r.tracks.map (top :: ·)
    progressAtFault := if subtree.isNone then top.progress else r.progressAtFault }

/-- Whether two readings are in the same situation. -/
def canMerge (a b : Reading) : Bool :=
  a.isActive && b.isActive && Track.meets a.top b.top && a.names = b.names

/-- Merges the tracks of the second reading into the first. -/
def merge (a b : Reading) : Reading :=
  let tracks := b.tracks.foldl Track.join a.tracks
  let progress :=
    if a.tracks.length < tracks.length then max a.top.progress b.top.progress
    else a.top.progress
  { a with
    top := { a.top with progress }
    tracks
    progressAtFault := if a.state = .skipping then progress else a.progressAtFault }

/-- Whether a reading has moved since its last fault. -/
def hasMoved (r : Reading) : Bool :=
  r.top.cost = 0 || (match r.tracks with
    | [] => false
    | track :: _ => moved r.progressAtFault track)
where
  /-- Whether some step of a track, back to the last fault, took up room. -/
  moved (progressAtFault : Nat) : Track → Bool
    | [] => false
    | [_] => false
    | f :: g :: rest =>
      match f.subtree with
      | none => false
      | some t =>
        if g.place.byte < f.place.byte then true
        else if progressAtFault < f.progress && t.cost = 0 then moved progressAtFault (g :: rest)
        else false

/-- The ways to take `n` steps back, grouped by where they lead: for each of the places, the
subtrees of the ways there, and the reading from there. -/
def backs (r : Reading) (n : Nat) : List (List (List Subtree) × Reading) :=
  let ways := r.tracks.filterMap (Track.back? n)
  let tops := (ways.filterMap fun (_, t) => t.head?).foldl
    (fun (seen : List Frame) f => if seen.any (·.mark = f.mark) then seen else seen ++ [f]) []
  tops.map fun top =>
    let here := ways.filter fun (_, t) => (t.head?.map (·.mark)) = some top.mark
    let groups := here.foldl (fun (seen : List (List Subtree × Track)) (w : List Subtree × Track) =>
      if seen.any fun s => samePlaces s.1 w.1 then seen else seen ++ [w]) []
    let tracks := here.foldl (fun (seen : List Track) (w : List Subtree × Track) =>
      if seen.any fun s => s.map (·.mark) = w.2.map (·.mark) then seen else seen ++ [w.2]) []
    (groups.map (·.1), { r with top, tracks, status := .active, recalls := [] })
where
  /-- Whether two lists of subtrees are step by step the same. -/
  samePlaces (a b : List Subtree) : Bool :=
    a.length = b.length && (a.zip b).all fun (s, t) =>
      s.symbol = t.symbol && s.start.byte = t.start.byte && s.stop.byte = t.stop.byte
        && s.cost = t.cost

/-- How far back the states of a reading are recalled. -/
def maxRecall : Nat := 16

/-- The states that a reading has been in, nearest first. -/
def pastStates (r : Reading) : List Recall :=
  let depth := (r.tracks.map List.length).foldl max 0
  (gather (depth + 1) (r.tracks.map fun t => (0, t)) []).reverse
where
  /-- Records a state unless it is recorded for the same distance; the latest record is the
  first. -/
  record (f : Frame) (depth : Nat) (found : List Recall) : List Recall :=
    if (found.takeWhile fun e => depth ≤ e.depth).any fun e =>
      e.depth = depth && e.state = f.state then found
    else ⟨f.place, depth, f.state⟩ :: found
  /-- Goes back along all tracks in step. -/
  gather : Nat → List (Nat × Track) → List Recall → List Recall
    | 0, _, found => found
    | fuel + 1, tracks, found =>
      let (tracks, found) := tracks.foldl
        (fun ((next, found) : List (Nat × Track) × List Recall) (depth, track) =>
          match track with
          | [] => (next, found)
          | f :: rest =>
            if maxRecall < depth then (next, found)
            else
              let step := match f.subtree with
                | some t => if t.isBeside then 0 else 1
                | none => 1
              ((if rest.isEmpty then next else next ++ [(depth + step, rest)]),
                record f depth found))
        ([], found)
      if tracks.isEmpty then found else gather fuel tracks found

end Reading

end Explainer.Markup
