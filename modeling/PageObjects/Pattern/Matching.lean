import PageObjects.Pattern.Step

/-!
# Matching

A match is found by trying the ways of a sequence of steps in order, each with
the rest of the pattern as its continuation.  The edges of groups are noted on
the way; when a way is given up, the notes are taken back as far as the place
where it was chosen asks for: inside a repetition all of them, elsewhere only
how many are valid.  What is not taken back is the place of the last try.  A
repetition that keeps all its rounds goes on from there: when its last round is
given up, that is where the round was last tried from, and not where it began.

The recursion follows the steps; a repetition counts its rounds, of which as
many are allowed as rounds that move on can use up.

Main definitions:

- `Edges`: the edges of groups noted so far.
- `runSteps`: the first way of a sequence whose continuation succeeds.
- `searchIn`: where a match is found in a text.
-/

namespace PageObjects.Pattern

/-- The edges of groups noted so far, how many of them are valid, and the place of
the last try. -/
structure Edges where
  noted : List (Option Nat) := []
  valid : Nat := 0
  tried : Nat := 0
deriving Repr, DecidableEq

namespace Edges

/-- Note the place of a try. -/
def trying (edges : Edges) (place : Nat) : Edges := { edges with tried := place }

/-- Note an edge. -/
def note (edges : Edges) (index place : Nat) : Edges :=
  if edges.valid ≤ index then
    { edges with
      noted := edges.noted.take edges.valid ++ List.replicate (index - edges.valid) none ++ [some place]
      valid := index + 1 }
  else { edges with noted := edges.noted.set index (some place) }

/-- The edges after a way was given up that was chosen when they were `saved`. -/
def back (inRounds : Bool) (saved now : Edges) : Edges :=
  if inRounds then { saved with tried := now.tried } else { now with valid := saved.valid }

/-- The span of a group, if it has matched. -/
def span? (edges : Edges) (group : Nat) : Option (Nat × Nat) :=
  if edges.valid ≤ 2 * group - 1 then none
  else
    match edges.noted[2 * group - 2]?, edges.noted[2 * group - 1]? with
    | some (some a), some (some b) => if a ≤ b then some (a, b) else none
    | _, _ => none

/-- Whether a group was noted to end before it begins. -/
def isBroken (edges : Edges) (group : Nat) : Bool :=
  if edges.valid ≤ 2 * group - 1 then false
  else
    match edges.noted[2 * group - 2]?, edges.noted[2 * group - 1]? with
    | some (some a), some (some b) => b < a
    | _, _ => false

end Edges

/-- Where a match ends, if there is one, and the edges noted. -/
abbrev Outcome := Option Nat × Edges

/-- What remains to be matched after some steps. -/
abbrev Continuation := Nat → Edges → Outcome

/-- A way to match from a place on, followed by a continuation. -/
abbrev Matcher := Nat → Edges → Continuation → Outcome

/-- The first success of two ways. -/
def Outcome.orElse (first : Outcome) (second : Edges → Outcome) : Outcome :=
  match first with
  | (some j, edges) => (some j, edges)
  | (none, edges) => second edges

/-- The outcome, whose last try was at a place if it failed. -/
def Outcome.failedAt (place : Nat) : Outcome → Outcome
  | (some j, edges) => (some j, edges)
  | (none, edges) => (none, edges.trying place)

/-- The continuation that ends a match. -/
def ended : Continuation := fun j edges => (some j, edges.trying j)

/-- Whether the character at a place is a word character. -/
def wordAt (text : Array Nat) (unicode : Bool) (i : Nat) : Bool :=
  match text[i]? with
  | some n => Category.word.holds unicode n
  | none => false

/-- Whether an anchor holds at a place. -/
def Anchor.holds (text : Array Nat) (i : Nat) : Anchor → Bool
  | .textStart => i == 0
  | .lineStart => i == 0 || text[i - 1]? == some 10
  | .textEnd => i == text.size
  | .finalLineEnd => i == text.size || (i + 1 == text.size && text[i]? == some 10)
  | .lineEnd => i == text.size || text[i]? == some 10
  | .boundary unicode negated =>
    text.size != 0 &&
      ((((0 < i) && wordAt text unicode (i - 1)) != wordAt text unicode i) != negated)

/-! ## Repetitions -/

/-- Repetition that prefers more rounds.  Beyond the required rounds, a round
must not begin where the one before it began. -/
def greedyRounds (body : Matcher) (least : Nat) (most : Option Nat) :
    (fuel count : Nat) → (last : Option Nat) → Matcher
  | 0, _, _, i, edges, k => k i edges
  | fuel + 1, count, last, i, edges, k =>
    let edges := edges.trying i
    Outcome.failedAt i <|
      if count < least then
        body i edges fun j edges => greedyRounds body least most fuel (count + 1) last j edges k
      else if most.all (count < ·) && last != some i then
        (body i edges fun j edges => greedyRounds body least most fuel (count + 1) (some i) j edges k).orElse
          fun now => k i ((Edges.back true edges now).trying i)
      else k i edges

/-- Repetition that prefers fewer rounds. -/
def lazyRounds (body : Matcher) (inRounds : Bool) (least : Nat) (most : Option Nat) :
    (fuel count : Nat) → (last : Option Nat) → Matcher
  | 0, _, _, i, edges, k => k i edges
  | fuel + 1, count, last, i, edges, k =>
    let edges := edges.trying i
    Outcome.failedAt i <|
      if count < least then
        body i edges fun j edges => lazyRounds body inRounds least most fuel (count + 1) last j edges k
      else
        (k i edges).orElse fun now =>
          let edges := (Edges.back inRounds edges now).trying i
          if most.all (count < ·) && last != some i then
            body i edges fun j edges => lazyRounds body inRounds least most fuel (count + 1) (some i) j edges k
          else (none, edges)

/-- Repetition that keeps all the rounds it can get.  It goes on from the last try. -/
def possessiveRounds (body : Matcher) (least : Nat) (most : Option Nat) :
    (fuel count : Nat) → (last : Option Nat) → Nat → Edges → Outcome
  | 0, _, _, i, edges => (some i, edges)
  | fuel + 1, count, last, i, edges =>
    if count < least then
      match body i edges ended with
      | (some j, edges) => possessiveRounds body least most fuel (count + 1) last j edges
      | (none, edges) => (none, edges)
    else if most.all (count < ·) && last != some i then
      match body i edges ended with
      | (some j, edges) => possessiveRounds body least most fuel (count + 1) (some i) j edges
      | (none, now) => (some now.tried, Edges.back true edges now)
    else (some i, edges)

/-- How many characters in a row pass a test, up to a bound. -/
def runLength (text : Array Nat) (test : CharTest) : (bound i : Nat) → Nat
  | 0, _ => 0
  | bound + 1, i =>
    match text[i]? with
    | some n => if test.holds n then runLength text test bound (i + 1) + 1 else 0
    | none => 0

/-- Whether a continuation that begins with a certain character can go on at a place. -/
def goesOn (text : Array Nat) (next : Option Nat) (i : Nat) : Bool :=
  match next with
  | some n => text[i]? == some n
  | none => true

/-- Try the tail of a run of characters, from its longest length down to its
least.  Where the tail begins with another character it is not tried. -/
def shrinkRun (text : Array Nat) (inRounds : Bool) (next : Option Nat) (k : Continuation) (start : Nat)
    (saved : Edges) : (extra : Nat) → Edges → Outcome
  | 0, edges =>
    if goesOn text next start then
      (k start (edges.trying start)).orElse fun now => (none, Edges.back inRounds saved now)
    else (none, edges)
  | extra + 1, edges =>
    let i := start + (extra + 1)
    if goesOn text next i then
      (k i (edges.trying i)).orElse fun now =>
        shrinkRun text inRounds next k start saved extra (Edges.back inRounds saved now)
    else shrinkRun text inRounds next k start saved extra edges

/-- Try the tail of a run of characters, from its least length up to its longest.
In the end, one more character is asked for. -/
def growRun (text : Array Nat) (inRounds : Bool) (test : CharTest) (k : Continuation) (saved : Edges) :
    (extra i : Nat) → Edges → Outcome
  | 0, i, edges =>
    let more := if test.isFoldedClass then runLength text test 1 i else 0
    (k i (edges.trying i)).orElse fun now => (none, (Edges.back inRounds saved now).trying (i + more))
  | extra + 1, i, edges =>
    (k i (edges.trying i)).orElse fun now =>
      growRun text inRounds test k saved extra (i + 1) (Edges.back inRounds saved now)

/-- A run of characters that pass a test; `next` is the character that the rest
begins with, if that is certain. -/
def runOf (text : Array Nat) (inRounds : Bool) (least : Nat) (most : Option Nat) (greed : Greed)
    (test : CharTest) (next : Option Nat) : Matcher := fun i edges k =>
  let room := text.size - i
  if room < least then (none, edges)
  else
    let found := runLength text test (match most with
      | some m => min m room
      | none => room) i
    if found < least then (none, edges.trying (if test.isFoldedClass then i + found else i))
    else
      match greed with
      | .possessive => k (i + found) (edges.trying (i + found))
      | .greedy => shrinkRun text inRounds next k (i + least) edges (found - least) (edges.trying i)
      | .lazy => growRun text inRounds test k edges (found - least) (i + least) (edges.trying i)

/-- Whether two spans of the text are the same under a folding. -/
def sameSpan (text : Array Nat) (folding : Folding) (i j : Nat) : (length : Nat) → Bool
  | 0 => true
  | n + 1 =>
    match text[i]?, text[j]? with
    | some a, some b => folding.apply a == folding.apply b && sameSpan text folding (i + 1) (j + 1) n
    | _, _ => false

/-! ## Sequences -/

/-- Whether a way is not even tried: it begins with a plain test that the character does not pass. -/
def skipsWay (text : Array Nat) (i : Nat) : List Step → Bool
  | .one test :: _ => test.isPlain && !(text[i]?.any test.holds)
  | _ => false

/-- The character that steps begin with, if that is certain. -/
def certainStart? : List Step → Option Nat
  | .one test :: _ => test.certain?
  | _ => none

mutual

/-- The first way of a step from a place on whose continuation succeeds; `next` is
the character that the continuation begins with, if that is certain. -/
def Step.matcher (text : Array Nat) (inRounds : Bool) (next : Option Nat) : Step → Matcher
  | .one test, i, edges, k =>
    match text[i]? with
    | some n => if test.holds n then k (i + 1) edges else (none, edges)
    | none => (none, edges)
  | .anchor place, i, edges, k => if place.holds text i then k i edges else (none, edges)
  | .edge index, i, edges, k => k i (edges.note index i)
  | .branch ways, i, edges, k => runWays text inRounds ways edges i edges k
  | .run least most greed test, i, edges, k => runOf text inRounds least most greed test next i edges k
  | .rounds least most greed body, i, edges, k =>
    let fuel := least + 2 * (text.size + 1)
    let edges := edges.trying i
    match greed with
    | .greedy => greedyRounds (runSteps text true none body) least most fuel 0 none i edges k
    | .lazy => lazyRounds (runSteps text true none body) inRounds least most fuel 0 none i edges k
    | .possessive =>
      match possessiveRounds (runSteps text inRounds none body) least most fuel 0 none i edges with
      | (some j, edges) => k j edges
      | (none, edges) => (none, edges.trying i)
  | .backref folding group, i, edges, k =>
    match edges.span? group with
    | some (a, b) => if sameSpan text folding a i (b - a) then k (i + (b - a)) edges else (none, edges)
    | none => (none, edges)
  | .assertion negated back body, i, edges, k =>
    if i < back then (if negated then k i edges else (none, edges))
    else
      match runSteps text inRounds none body (i - back) (edges.trying (i - back)) ended, negated with
      | (some _, now), true => (none, now)
      | (none, now), true => k i (Edges.back inRounds edges now)
      | (some _, now), false => k i now
      | (none, now), false => (none, now)
  | .atomic body, i, edges, k =>
    match runSteps text inRounds none body i (edges.trying i) ended with
    | (some j, edges) => k j edges
    | (none, edges) => (none, edges.trying i)
  | .ifMatched group yes no, i, edges, k =>
    if (edges.span? group).isSome then runSteps text inRounds (if no.isEmpty then next else none) yes i edges k
    else runSteps text inRounds next no i edges k

/-- The first way of a sequence from a place on whose continuation succeeds; `next`
is the character that the continuation begins with, if that is certain. -/
def runSteps (text : Array Nat) (inRounds : Bool) (next : Option Nat) : List Step → Matcher
  | [], i, edges, k => k i edges
  | step :: rest, i, edges, k =>
    let following := if rest.isEmpty then next else certainStart? rest
    step.matcher text inRounds following i edges fun j edges => runSteps text inRounds next rest j edges k

/-- The first way of several sequences from a place on whose continuation succeeds. -/
def runWays (text : Array Nat) (inRounds : Bool) : List (List Step) → (saved : Edges) → Matcher
  | [], _, _, edges, _ => (none, edges)
  | way :: rest, saved, i, edges, k =>
    if skipsWay text i way then runWays text inRounds rest saved i edges k
    else
      (runSteps text inRounds none way i (edges.trying i) k).orElse fun now =>
        runWays text inRounds rest saved i (Edges.back inRounds saved now) k

end

/-! ## Searching -/

/-- The edges of a match, after its start and its end. -/
structure Found where
  start : Nat
  stop : Nat
  edges : Edges
deriving Repr, DecidableEq

/-- A match that begins at a place. -/
def matchAt (text : Array Nat) (steps : List Step) (i : Nat) : Option Found :=
  match runSteps text false none steps i { tried := i } ended with
  | (some j, edges) => some ⟨i, j, edges⟩
  | (none, _) => none

/-- The first match that begins at one of some places. -/
def firstMatch (text : Array Nat) (steps : List Step) (admits : Nat → Bool) :
    (count i : Nat) → Option Found
  | 0, _ => none
  | count + 1, i =>
    match if admits i then matchAt text steps i else none with
    | some found => some found
    | none => firstMatch text steps admits count (i + 1)

/-- The first match in a text that is long enough, from a place on. -/
def searchFrom (rule : StartRule) (least : Nat) (steps : List Step) (text : Array Nat) (i : Nat) :
    Option Found :=
  if text.size < i + least then none
  else
    match rule with
    | .upTo distance => firstMatch text steps (fun _ => true) (text.size - distance - i + 1) i
    | .whereTest test =>
      firstMatch text steps (fun i => text[i]?.any test.holds) (text.size - i) i

end PageObjects.Pattern
