import Explainer.Markup.Reading

/-!
# Reading markup with recovery

Well-formed markup is read in one pass by the automaton. Where a token does not fit, the reading
waits until all others are as far, and then several ways to go on are tried side by side: suppose
one missing token; go back to an earlier state in which the token fits and skip what is between;
or skip the token. All readings proceed together, the costly ones are dropped on the way, and the
cheapest tree at the end is the result. Any text has a tree.
-/

namespace Explainer.Markup

/-- All readings of a text under way, the most promising first. -/
structure Attempts where
  readings : Array Reading
  /-- The number of frames made so far. -/
  marks : Nat
  /-- The best tree that is complete. -/
  finished : Option Subtree
  accepted : Nat

namespace Attempts

/-- How many readings are kept. -/
def maxReadings : Nat := 6

/-- How many more may exist for a moment. -/
def maxSurplus : Nat := 4

/-- The readings before the start of a text. -/
def start (s : Text) : Attempts := ⟨#[.start s], 1, none, 0⟩

def count (a : Attempts) : Nat := a.readings.size

def modify (a : Attempts) (i : Nat) (f : Reading → Reading) : Attempts :=
  { a with readings := a.readings.modify i f }

/-- Drops one reading. -/
def remove (a : Attempts) (i : Nat) : Attempts :=
  { a with readings := a.readings.eraseIdxIfInBounds i }

/-- Gives up one reading. -/
def halt (a : Attempts) (i : Nat) : Attempts := a.modify i ({ · with status := .halted })

/-- Adds a step to one reading. -/
def push (a : Attempts) (i : Nat) (subtree : Option Subtree) (state : State) : Attempts :=
  { a.modify i (·.push a.marks subtree state) with marks := a.marks + 1 }

/-- Adds subtrees to one reading without a change of state. -/
def pushAll (a : Attempts) (i : Nat) (subtrees : List Subtree) (state : State) : Attempts :=
  subtrees.foldl (fun a t => a.push i (some t) state) a

/-- Takes a token into one reading. -/
def shift (a : Attempts) (i : Nat) (token : Subtree) (beside : Bool) (state : State) : Attempts :=
  let a := a.push i (some { token with isBeside := beside }) state
  match token.names with
  | some names => a.modify i ({ · with names })
  | none => a

/-- Puts the reading `source` in the place of the reading `target`. -/
def replace (a : Attempts) (source target : Nat) : Attempts :=
  match a.readings[source]?, a.readings[target]? with
  | some r, some old =>
    let r := if r.recalls.isEmpty then { r with recalls := old.recalls } else r
    (a.modify target fun _ => r).remove source
  | _, _ => a

/-- Merges the reading `j` into the reading `i`, if both are in the same situation. -/
def merge? (a : Attempts) (i j : Nat) : Option Attempts :=
  match a.readings[i]?, a.readings[j]? with
  | some r, some s => if r.canMerge s then some ((a.modify i (·.merge s)).remove j) else none
  | _, _ => none

/-- Merges the reading `j` into the first reading in `candidates` for which that is possible. -/
def mergeInto? (a : Attempts) (candidates : List Nat) (j : Nat) : Option Attempts :=
  candidates.findSome? (a.merge? · j)

/-- The construct of the cheapest of several lists of parts, and what stands beside the structure
after it. -/
def construct (symbol : Nonterminal) (p : Place) :
    List (List Subtree) → Subtree × List Subtree
  | [] => (.ofChildren symbol p [], [])
  | first :: others =>
    let build (parts : List Subtree) : Subtree × List Subtree :=
      let (parts, trailing) := Subtree.splitTrailing parts
      (.ofChildren symbol p parts, trailing)
    others.foldl
      (fun best parts =>
        let other := build parts
        if best.1.prefersSecond other.1 then other else best)
      (build first)

/-- Builds a construct at the end of one reading, for each way back. The resulting readings are
added behind the others. -/
def reduce (a : Attempts) (i : Nat) (symbol : Nonterminal) (n : Nat) : Attempts :=
  match a.readings[i]? with
  | none => a
  | some r =>
    let halted := (a.readings.filter (·.isHalted)).size
    (r.backs n).foldl
      (fun a (ways, base) =>
        if maxReadings + maxSurplus + halted < a.count then a
        else
          let (parent, trailing) := construct symbol base.place ways
          let j := a.count
          let next := base.state.goto symbol
          let a := { a with readings := a.readings.push base }
          let a := (a.push j (some parent) next).pushAll j trailing next
          (a.mergeInto? ((List.range j).filter (· ≠ i)) j).getD a)
      a

/-- The constructs that a state can build before some of the given terminals, and whether one of
these can be taken in as it is. -/
def possible (s : State) (terminals : List Terminal) : List (Nonterminal × Nat) × Bool :=
  terminals.foldl
    (fun (found, shifts) t =>
      match s.action t with
      | some (.reduce symbol n) =>
        (if n = 0 || found.contains (symbol, n) then found else found ++ [(symbol, n)], shifts)
      | some (.shift _) => (found, true)
      | _ => (found, shifts || s = .skipping))
    ([], false)

/-- Builds whatever can be built at the end of one reading, before any terminal or before the
given one. In the second case readings that cannot then take the terminal in are dropped. The
answer says whether some reading can take one in. -/
def reduceAll (a : Attempts) (first : Nat) (target : Option Terminal) : Attempts × Bool :=
  go 200 a first 0 false
where
  /-- Works through the readings that come into being. -/
  go : Nat → Attempts → Nat → Nat → Bool → Attempts × Bool
    | 0, b, _, _, can => (b, can)
    | fuel + 1, b, v, round, can =>
      match b.readings[v]? with
      | none => (b, can)
      | some r =>
        match b.mergeInto? ((List.range v).filter (a.count ≤ ·)) v with
        | some b => go fuel b v (round + 1) can
        | none =>
          let before := b.count
          let (constructs, shifts) := possible r.state (target.elim Terminal.supposable ([·]))
          let (b, made) := constructs.foldl
            (fun ((b, _) : Attempts × Option Nat) (symbol, n) =>
              let size := b.count
              let b := b.reduce v symbol n
              (b, if size < b.count then some size else none))
            (b, none)
          let next := if v = first then before else v + 1
          if shifts then go fuel b next (round + 1) true
          else match made with
            | some j =>
              if round < maxReadings then go fuel (b.replace j v) v (round + 1) can
              else if target.isSome then go fuel (b.remove v) next (round + 1) can
              else go fuel b next (round + 1) can
            | none =>
              if target.isSome then go fuel (b.remove v) next (round + 1) can
              else go fuel b next (round + 1) can

/-- Whether some reading is better than a reading `i` would be at the given cost. -/
def betterExists (a : Attempts) (i cost : Nat) : Bool :=
  if a.finished.any (·.cost ≤ cost) then true
  else match a.readings[i]? with
    | none => false
    | some r =>
      let standing : Standing := ⟨cost, r.progressSinceFault, false⟩
      (List.range a.count).any fun j =>
        match a.readings[j]? with
        | none => false
        | some s =>
          if j = i || !s.isActive || s.place.byte < r.place.byte then false
          else match Reading.compare standing s.standing with
            | .takeSecond => true
            | .preferSecond => s.canMerge r
            | _ => false

/-- Ends one reading with the end of the markup: its tree is kept if it is the best so far. -/
def accept (a : Attempts) (i : Nat) (token : Subtree) : Attempts :=
  let a := a.push i (some token) .start
  match a.readings[i]? with
  | none => a
  | some r =>
    let a := r.tracks.foldl
      (fun a track =>
        let trees := (track.filterMap (·.subtree))
        -- the latest tree is the first here
        let after := trees.takeWhile (·.isBeside)
        match trees.drop after.length with
        | [] => a
        | tree :: before =>
          let parts := before.reverse ++ tree.children ++ after.reverse
          let symbol := match tree.symbol with
            | .construct n => n
            | .terminal _ => .error
          let root := Subtree.ofChildren symbol tree.start parts
          let better := match a.finished with
            | none => true
            | some best => best.prefersSecond root
          { a with
            accepted := a.accepted + 1
            finished := if better then some root else a.finished })
      a
    a.halt i

/-- Takes one reading `depth` steps back to a state and puts what was between into a skipped
stretch. The resulting readings are added behind the others. The answer says whether there is
one. -/
def returnTo (a : Attempts) (i depth : Nat) (state : State) : Attempts × Bool :=
  match a.readings[i]? with
  | none => (a, false)
  | some r =>
    (r.backs depth).foldl
      (fun (a, done) (ways, base) =>
        if base.state ≠ state then (a, done)
        else
          let (earlier, base) := popError base
          let (skipped, trailing) := Subtree.splitTrailing (earlier ++ (ways.head?.getD []))
          let j := a.count
          let a := { a with readings := a.readings.push base }
          let a :=
            if skipped.isEmpty then a
            else a.push j
              (some { Subtree.ofChildren .error base.place skipped with isBeside := true }) state
          (a.pushAll j trailing state, true))
      (a, false)
where
  /-- Takes a skipped stretch off the end of a reading, so that it can be made longer. -/
  popError (r : Reading) : List Subtree × Reading :=
    let hit := r.tracks.findSome? fun
      | f :: g :: _ => match f.subtree with
        | some t => if t.symbol.isError then some (t, g) else none
        | none => none
      | _ => none
    match hit with
    | some (t, g) =>
      let tracks := r.tracks.filterMap fun
        | _ :: g' :: rest => if g'.mark = g.mark then some (g' :: rest) else none
        | _ => none
      (t.children, { r with top := g, tracks })
    | none => ([], r)

/-- Goes back, in one reading, to the nearest state in which the token fits. -/
def returnBefore (a : Attempts) (i : Nat) (token : Subtree) (terminal : Terminal) :
    Attempts × Bool :=
  match a.readings[i]? with
  | none => (a, false)
  | some r => search r r.recalls
where
  /-- Tries the recalled states in turn. -/
  search (r : Reading) : List Recall → Attempts × Bool
    | [] => (a, false)
    | e :: rest =>
      let taken := a.readings.any fun s => s.state = e.state && s.place.byte = r.place.byte
      if e.state = .skipping || e.place.byte = r.place.byte || taken then search r rest
      else
        let cost := r.cost + e.depth * prices.tree
          + (r.place.byte - e.place.byte) * prices.byte
          + (r.place.row - e.place.row) * prices.line
        if a.betterExists i cost then (a, false)
        else if token.symbol.isError || (e.state.action terminal).isNone then search r rest
        else
          let depth := if 0 < r.progressSinceFault then e.depth + 1 else e.depth
          match a.returnTo i depth e.state with
          | (b, true) => (b, true)
          | (_, false) => search r rest

def skip (a : Attempts) (i : Nat) (token : Subtree) (terminal : Terminal) : Attempts :=
  match a.readings[i]? with
  | none => a
  | some r =>
    let token := if terminal = .comment then { token with isBeside := true } else token
    let one := Subtree.ofChildren .skipped r.place [token]
    let a :=
      if 0 < r.progressSinceFault then
        match r.backs 1 with
        | [] => a.push i (some one) .skipping
        | (ways, base) :: _ =>
          let parts := (ways.head?.getD []) ++ [one]
          (a.modify i fun _ => { base with recalls := r.recalls }).push i
            (some (.ofChildren .skipped r.place parts)) .skipping
      else a.push i (some one) .skipping
    match token.names with
    | some names => a.modify i ({ · with names })
    | none => a

/-- Goes on in one reading after a fault: back to a state in which the token fits, and beside
that over the token. -/
def recover (a : Attempts) (i : Nat) (token : Subtree) (terminal : Terminal) : Attempts :=
  match a.readings[i]? with
  | none => a
  | some r =>
    let (b, returned) :=
      if token.symbol.isError then (a, false) else a.returnBefore i token terminal
    let contextChanged := token.names.any (· ≠ r.names)
    if returned && (maxReadings < b.count || contextChanged) then b.halt i
    else if terminal = .ended then
      let empty := Subtree.ofChildren .error r.place []
      (b.push i (some empty) .start).accept i token
    else
      let cost := r.cost + prices.tree + (token.stop.byte - r.place.byte) * prices.byte
        + (token.stop.row - r.place.row) * prices.line
      if b.betterExists i cost then b.halt i else b.skip i token terminal

/-- Whether a state builds a construct before a terminal. -/
def reducesBefore (s : State) (t : Terminal) : Bool :=
  match s.action t with
  | some (.reduce ..) => true
  | _ => false

/-- Tries to go on in one reading by supposing one missing token. -/
def suppose? (a : Attempts) (i : Nat) (terminal : Terminal) : Option Attempts :=
  match a.readings[i]? with
  | none => none
  | some r => go r a Terminal.supposable
where
  /-- Tries the terminals in turn; readings that lead nowhere are left behind. -/
  go (r : Reading) (a : Attempts) : List Terminal → Option Attempts
    | [] => none
    | t :: rest =>
      match r.state.action t with
      | some (.shift next) =>
        if next ≠ r.state && reducesBefore next terminal then
          let j := a.count
          let a := { a with readings := a.readings.push { r with recalls := [] } }
          let a := a.push j (some (.supposed t r.place)) next
          match a.reduceAll j (if terminal = .ended then none else some terminal) with
          | (a, true) => some a
          | (a, false) => go r a rest
        else go r a rest
      | _ => go r a rest

/-- Begins to recover from a token that does not fit: builds what can be built, supposes a missing
token if one helps, and opens a gap. -/
def handleFault (a : Attempts) (i : Nat) (token : Subtree) (terminal : Terminal) : Attempts :=
  let before := a.count
  let (a, _) := a.reduceAll i none
  let after := a.count
  let versions := i :: (List.range after).filter (before ≤ ·)
  let (a, _) := versions.foldl
    (fun ((a, supposed) : Attempts × Bool) v =>
      let (a, supposed) :=
        if supposed then (a, true)
        else match a.suppose? v terminal with
          | some a => (a, true)
          | none => (a, false)
      (a.push v none .skipping, supposed))
    (a, false)
  let a := (List.range (after - before)).foldl (fun a _ => (a.merge? i before).getD a) a
  let a := a.modify i fun r => { r with recalls := r.pastStates }
  a.recover i token terminal

def terminalOf (token : Subtree) : Terminal :=
  match token.symbol with
  | .terminal t => t
  | .construct _ => .junk

/-- Carries one reading on by one token. -/
def advance (a : Attempts) (i : Nat) : Attempts :=
  match a.readings[i]? with
  | none => a
  | some r =>
    let s := r.state
    let moved := r.hasMoved
    let lexeme := Lexer.next s.admits s.lexMode
      (fun t => s ≠ .skipping && moved && s.action t ≠ some .pass) r.names r.place
    go (2 * (r.tracks.map List.length).foldl max 0 + 8) (.ofLexeme lexeme) lexeme.terminal a
where
  /-- Builds constructs until the token fits or is known not to. -/
  go : Nat → Subtree → Terminal → Attempts → Attempts
    | 0, _, _, a => a.halt i
    | fuel + 1, token, terminal, a =>
      match a.readings[i]? with
      | none => a
      | some r =>
        match r.state.action terminal with
        | some (.shift next) => a.shift i token token.isBeside next
        | some .pass => a.shift i token true r.state
        | some (.reduce symbol n) =>
          let size := a.count
          let b := a.reduce i symbol n
          if size < b.count then go fuel token terminal (b.replace size i) else b.halt i
        | some .accept => a.accept i token
        | none =>
          if r.state = .skipping then a.recover i token terminal
          else a.modify i fun r =>
            { r with status := .paused token, progressAtFault := r.top.progress }

/-- Compares each reading with those before it: the worse of two is dropped if it is much worse,
and goes behind the better one if not; readings in the same situation are merged. -/
def rank (a : Attempts) : Attempts :=
  go (40 + a.count * a.count * 8) a 0
where
  /-- Takes up the reading `i`. -/
  go : Nat → Attempts → Nat → Attempts
    | 0, a, _ => a
    | fuel + 1, a, i =>
      match a.readings[i]? with
      | none => a
      | some r =>
        if r.isHalted then go fuel (a.remove i) i
        else
          let (a, i) := against r.standing fuel a i 0
          go fuel a (i + 1)
  /-- Compares the reading at `i` with that at `j` and those after it. The answer is the index
  after which to go on, plus one less than nothing counted as zero. -/
  against (standing : Standing) : Nat → Attempts → Nat → Nat → Attempts × Nat
    | 0, a, i, _ => (a, i)
    | fuel + 1, a, i, j =>
      if i ≤ j then (a, i)
      else match a.readings[j]? with
        | none => (a, i)
        | some s =>
          match Reading.compare s.standing standing with
          | .takeFirst => (a.remove i, i - 1)
          | .preferFirst | .neither => match a.merge? j i with
            | some a => (a, i - 1)
            | none => against standing fuel a i (j + 1)
          | .preferSecond => match a.merge? j i with
            | some a => (a, i - 1)
            | none =>
              let readings := a.readings.swapIfInBounds i j
              against standing fuel { a with readings } i (j + 1)
          | .takeSecond => against standing fuel (a.remove j) (i - 1) j

/-- The least cost of the readings without a fault at hand. -/
def leastCost? (a : Attempts) : Option Nat :=
  a.readings.foldl
    (fun least r =>
      if r.isHalted || r.standing.faulty then least
      else some (match least with
        | none => r.standing.cost
        | some c => min c r.standing.cost))
    none

/-- Lets the best of the waiting readings recover if no reading before it is under way, and drops
the other waiting ones. The answer is the cost of the one that went on. -/
def resume (a : Attempts) : Attempts × Option Nat :=
  go (a.count + 1) a 0 false none
where
  /-- Takes up the reading `i`; `busy` says whether a reading before it is under way. -/
  go : Nat → Attempts → Nat → Bool → Option Nat → Attempts × Option Nat
    | 0, a, _, _, cost => (a, cost)
    | fuel + 1, a, i, busy, cost =>
      match a.readings[i]? with
      | none => (a, cost)
      | some r => match r.status with
        | .paused token =>
          if !busy && a.accepted < maxReadings then
            let a := a.modify i fun (r : Reading) => { r with status := .active }
            go fuel (a.handleFault i token (terminalOf token)) (i + 1) true (some r.cost)
          else go fuel (a.remove i) i busy cost
        | _ => go fuel a (i + 1) true cost

/-- Drops what is not worth pursuing and lets a waiting reading go on. The answer is the least
cost of the readings. -/
def condense (a : Attempts) : Attempts × Option Nat :=
  let a := { a with readings := a.readings.map fun (r : Reading) =>
    { r with progressAtFault := min r.progressAtFault r.top.progress } }
  let least := a.leastCost?
  let a := a.rank
  let a := { a with readings := a.readings.take maxReadings }
  match a.resume with
  | (a, some cost) => (a, some cost)
  | (a, none) => (a, least)

/-- Carries every reading on until it is further than any was before. -/
def advanceAll (a : Attempts) (last : Nat) : Attempts × Nat :=
  let depth := (a.readings.map fun r => r.names.length).foldl max 0
  go ((64 + 4 * depth) * (a.count + 1)) a 0 last
where
  /-- Carries the reading `i` on. -/
  go : Nat → Attempts → Nat → Nat → Attempts × Nat
    | 0, a, _, last => (a, last)
    | fuel + 1, a, i, last =>
      match a.readings[i]? with
      | none => (a, last)
      | some r =>
        if !r.isActive then go fuel a (i + 1) last
        else
          let a := a.advance i
          let byte := (a.readings[i]?.map (·.place.byte)).getD last
          if last < byte || (0 < i && byte = last) then go fuel a (i + 1) byte
          else go fuel a i last

/-- Reads on until the best tree is complete. -/
def run : Nat → Attempts → Nat → Option Subtree
  | 0, a, _ => a.finished
  | fuel + 1, a, last =>
    let (a, last) := a.advanceAll last
    if a.count = 0 then a.finished
    else
      let (a, least) := a.condense
      let done : Bool := match a.finished, least with
        | some t, some c => t.cost < c
        | some _, none => true
        | none, _ => false
      if done then a.finished else run fuel a last

end Attempts

def Subtree.parse (s : Text) : Subtree :=
  let budget := 64 * (s.length + 16)
  ((Attempts.start s |>.run budget 0)).getD (.ofChildren .error (.start s) [])

end Explainer.Markup
