import PageObjects.Proofs.Program.Deeds

/-!
# Acts

The acts of a run are its deeds, where the deeds by which a page is remembered that has
just been constructed through a session or a record are told from all others.  They are
read off the run as its deeds are.  Only the calls that construct a page through an
instance are looked into: what they do is what the construction does, then the page is
kept, then what the block does that is given the page.

Main definitions:

- `Act`: a deed, or that a page is kept as the current one.
- `OnCall`, `onCall?`: the calls that construct a page through an instance.
- `OnCall.constructing`, `OnCall.handing`: what they do before and after the page is kept.
- `Prog.acts`, `callActs`, `Step.acts`, `scriptActs`: what the runs of programs, calls,
  steps and scripts do.

Main results:

- Theorem `enter_of_onCall`: what a call does that constructs a page through an instance.
- Theorem `Prog.acts_deeds`, `callActs_deeds` and `scriptActs_deeds`: the deeds of a run are
  what its acts come to.
-/

namespace PageObjects

/-! ## Constructing through an instance -/

/-- A call that constructs a page through an instance. -/
structure OnCall where
  owner : Value
  pageType : Value
  visit : Value
  block : Value

/-- A call of the member that constructs pages, if its arguments fit. -/
def OnCall.ofArguments? (owner : Value) (args : List Value) (named : Named) : Option OnCall :=
  match bindArguments [("page_class", true), ("visit", false), ("block", false)] args named with
  | some [cls, visit, block] =>
    some ⟨owner, Prog.given cls, visit.getD (.bool false), Prog.given block⟩
  | _ => none

/-- Whether a call constructs a page through an instance: the member may have been looked up
on the instance, or on its type. -/
def onCall? (f : Value) (args : List Value) (named : Named) : Option OnCall :=
  match f, args with
  | .member (.object id type) "on", args => OnCall.ofArguments? (.object id type) args named
  | .member (.recordType _) "on", .object id type :: args => OnCall.ofArguments? (.object id type) args named
  | _, _ => none

namespace OnCall

/-- The construction of the page. -/
def constructing (c : OnCall) : Prog Value :=
  (Prog.attributeOf PageType.reservedField c.owner).bind fun browser =>
    Prog.callValue c.pageType [browser, c.visit] []

/-- Keeping the page as the current one. -/
def keeping (c : OnCall) (page : Value) : Prog Unit := Prog.setAttribute c.owner Prog.currentPage page

/-- Handing the page to the block, if there is one. -/
def handing (c : OnCall) (page : Value) : Prog Value :=
  if c.block.isNone then .done page
  else (Prog.callValue c.block [page] []).bind fun _ => .done page

/-- The program of the call. -/
def program (c : OnCall) : Prog Value :=
  c.constructing.bind fun page => (c.keeping page).bind fun _ => c.handing page

/-- To construct, to keep and to hand on is all that happens. -/
theorem onPage_eq (c : OnCall) : Prog.onPage c.owner c.pageType c.visit c.block = c.program := by
  simp only [program, constructing, Prog.bind_assoc]
  rfl

end OnCall

/-- What a call does that constructs a page through an instance. -/
theorem enter_of_onCall {f : Value} {args : List Value} {named : Named} {c : OnCall}
    (h : onCall? f args named = some c) : Prog.enter f args named = c.program := by
  have hmember : ∀ {owner : Value} (type : Option ClassRef) {args : List Value},
      OnCall.ofArguments? owner args named = some c →
        Prog.callInstanceMember owner type "on" args named = c.program := by
    intro owner type args h
    rw [← OnCall.onPage_eq]
    simp only [OnCall.ofArguments?] at h
    simp only [Prog.callInstanceMember]
    split at h
    · obtain rfl := Option.some.inj h
      simp only [*]
    · cases h
  unfold onCall? at h
  split at h
  · rename_i id type
    exact hmember type h
  · rename_i cls id type args
    exact hmember type h
  · cases h

/-! ## Acts -/

/-- A deed, or that a page which an instance has constructed is kept as its current one. -/
inductive Act where
  | plain (d : Deed)
  | kept (id : Nat) (page : Value)

namespace Act

/-- What an act comes to. -/
def deed : Act → Deed
  | .plain d => d
  | .kept id page => .op (.setField id Prog.currentPage page)

/-- The page that is kept for an instance, if one is. -/
def kept? (id : Nat) : Act → Option Value
  | .plain _ => none
  | .kept id' page => if id' = id then some page else none

end Act

/-- The world that acts leave, one after the other. -/
def World.afterActs (w : World) (acts : List Act) : World := w.after (acts.map Act.deed)

/-- What a call does. -/
abbrev CallActs := Value → List Value → Named → World → List Act

/-- What is done with the answer of a run, if there is one. -/
def actsThen {α : Type} (r : Result α) (next : α → World → List Act) : List Act :=
  match r with
  | (.ok a, w) => next a w
  | (.error _, _) => []

section Lines

variable (caller : Caller) (called : CallActs)

/-- What is done to ask for texts. -/
def Asking.acts {α : Type} : Asking α → World → List Act
  | .done _ => fun _ => []
  | .fail _ => fun _ => []
  | .look f next => fun w => .plain (.op (.view f)) :: acts (next (f w.scene)) w
  | .call f args next => fun w => called f args [] w ++ actsThen (caller f args [] w) fun v => acts (next v)

/-- What is done to find the text of the context of an entry. -/
def Log.Entry.tailActs (e : Log.Entry) (w : World) : List Act :=
  if w.journal.policy.includeContext then (Asking.context e.context).acts caller called w else []

/-- What is done to log a line. -/
def tellActs (e : Log.Entry) (mark : Option Log.Mark) (w : World) : List Act :=
  if e.gate.opens w.journal.policy.mode then
    e.tailActs caller called w ++
      actsThen (e.tail caller w) fun tail _ => [.plain (.record (e.recordWith mark tail))]
  else []

/-- What is done at the end of a phase. -/
def Phase.closingActs {α : Type} (p : Phase) (limit : Value) (start : Float) (r : Result α) : List Act :=
  let elapsed := r.2.scene.clock - start
  match r.1 with
  | .error _ =>
    if admits p.fullContext ["failed"] then
      tellActs caller called (p.failure elapsed) (some (p.closingMark true)) r.2
    else []
  | .ok _ =>
    match reaches elapsed limit with
    | .ok slow => tellActs caller called (p.success elapsed slow) (some (p.closingMark false)) r.2
    | .error _ => []

/-- What is done in a phase; `inside` is what its body does. -/
def Phase.acts {α : Type} (p : Phase) (body : World → Result α) (inside : World → List Act) (w : World) :
    List Act :=
  if admits p.fullContext [] then
    tellActs caller called p.opening (some p.openingMark) w ++
      actsThen (tell caller p.opening (some p.openingMark) w) fun _ w' =>
        inside w' ++ p.closingActs caller called (p.limit w.scene.settings) w.scene.clock (body w')
  else []

end Lines

/-- What is done by a check that is repeated; `once` is what one check does. -/
def repeatActs (deadline : Float) (interval : Value) (check : World → Result (Option Value))
    (once : World → List Act) : (n : Nat) → World → List Act
  | 0, _ => []
  | n + 1, w =>
    once w ++
      match checked (check w).1 with
      | .ok none =>
        if (check w).2.scene.clock > deadline then []
        else
          .plain (.op (.sleep interval)) ::
            actsThen (Op.run (.sleep interval) (check w).2) fun _ => repeatActs deadline interval check once n
      | _ => []

/-- What the run of a program does. -/
def Prog.acts (caller : Caller) (called : CallActs) (rounds : Nat) {α : Type} : Prog α → World → List Act
  | .done _ => fun _ => []
  | .fail _ => fun _ => []
  | .perform op next => fun w =>
    let r := op.run w
    .plain (.op op) :: acts caller called rounds (next r.1) r.2
  | .invoke f args named next => fun w =>
    called f args named w ++
      actsThen (caller f args named w) fun v => acts caller called rounds (next v)
  | .tell e next => fun w =>
    tellActs caller called e none w ++
      actsThen (PageObjects.tell caller e none w) fun _ => acts caller called rounds next
  | .attempt body next => fun w =>
    let r := run caller rounds body w
    acts caller called rounds body w ++ acts caller called rounds (next r.1) r.2
  | .phase p body next => fun w =>
    p.acts caller called (run caller rounds body) (acts caller called rounds body) w ++
      actsThen (p.around caller (run caller rounds body) w) fun b => acts caller called rounds (next b)
  | .await p check next => fun w =>
    repeatActs (w.scene.clock + p.timeout) p.interval (run caller rounds check)
        (acts caller called rounds check) rounds w ++
      actsThen (repeatCheck (w.scene.clock + p.timeout) p.interval (run caller rounds check) rounds w)
        fun v => acts caller called rounds (next v)

namespace OnCall

/-- What is done to keep the page.  Unless the type of the instance sets fields by a member
of its own, the page is kept. -/
def keepingActs (c : OnCall) (caller : Caller) (called : CallActs) (rounds : Nat) (page : Value) (w : World) :
    List Act :=
  match w.scene.typeMember? c.owner settingName, Prog.instanceOf? c.owner with
  | none, some id => [.plain (.op (.view fun s => s.typeMember? c.owner settingName)), .kept id page]
  | _, _ => (c.keeping page).acts caller called rounds w

/-- What is done by a call that constructs a page through an instance. -/
def acts (c : OnCall) (caller : Caller) (called : CallActs) (rounds : Nat) (w : World) : List Act :=
  c.constructing.acts caller called rounds w ++
    actsThen (c.constructing.run caller rounds w) fun page w' =>
      c.keepingActs caller called rounds page w' ++
        actsThen ((c.keeping page).run caller rounds w') fun _ => (c.handing page).acts caller called rounds

end OnCall

/-! ## Calls and scripts -/

/-- What a call does, with a bound on the depth of calls. -/
def callActs (rounds : Nat) : (depth : Nat) → CallActs
  | 0, _, _, _, _ => []
  | depth + 1, f, args, named, w =>
    match onCall? f args named with
    | some c => c.acts (callAt rounds depth) (callActs rounds depth) rounds w
    | none => (Prog.enter f args named).acts (callAt rounds depth) (callActs rounds depth) rounds w

/-- What a step of a script does. -/
def Step.acts (step : Step) (w : World) : List Act :=
  .plain .renew :: (Prog.ofStep step).acts (callAt usualRounds usualDepth) (callActs usualRounds usualDepth)
    usualRounds w.renewed

/-- What a script does. -/
def scriptActs : List Step → World → List Act
  | [], _ => []
  | step :: rest, w => step.acts w ++ scriptActs rest (runStep step w).2

/-! ## What acts come to -/

/-- What is done next comes to the deeds of what is done next. -/
theorem map_actsThen {α : Type} (r : Result α) {acts : α → World → List Act} {deeds : α → World → List Deed}
    (h : ∀ a w, (acts a w).map Act.deed = deeds a w) : (actsThen r acts).map Act.deed = deedsThen r deeds := by
  rcases r with ⟨_ | a, w⟩
  · rfl
  · exact h a w

section Lines

variable {caller : Caller} {called : CallActs} {deeds : Called}
  (h : ∀ f args named w, (called f args named w).map Act.deed = deeds f args named w)

include h

/-- To ask for texts comes to its deeds, if calls do. -/
theorem Asking.acts_deeds {α : Type} (p : Asking α) (w : World) :
    (p.acts caller called w).map Act.deed = p.deeds caller deeds w := by
  induction p generalizing w with
  | done a => rfl
  | fail fault => rfl
  | look f next ih => exact congrArg (_ :: ·) (ih _ w)
  | call f args next ih => simp only [acts, Asking.deeds, List.map_append, h, map_actsThen _ ih]

/-- To log a line comes to its deeds, if calls do. -/
theorem tellActs_deeds (e : Log.Entry) (mark : Option Log.Mark) (w : World) :
    (tellActs caller called e mark w).map Act.deed = tellDeeds caller deeds e mark w := by
  have htail : (e.tailActs caller called w).map Act.deed = e.tailDeeds caller deeds w := by
    unfold Log.Entry.tailActs Log.Entry.tailDeeds
    split
    · exact Asking.acts_deeds h _ w
    · rfl
  unfold tellActs tellDeeds
  split
  · rw [List.map_append, htail]
    congr 1
    exact map_actsThen _ fun _ _ => rfl
  · rfl

/-- The end of a phase comes to its deeds, if calls do. -/
theorem Phase.closingActs_deeds {α : Type} (p : Phase) (limit : Value) (start : Float) (r : Result α) :
    (p.closingActs caller called limit start r).map Act.deed = p.closingDeeds caller deeds limit start r := by
  obtain ⟨answer, w⟩ := r
  cases answer with
  | error fault =>
    simp only [closingActs, closingDeeds]
    split
    · exact tellActs_deeds h _ _ _
    · rfl
  | ok a =>
    simp only [closingActs, closingDeeds]
    cases reaches (w.scene.clock - start) limit with
    | ok slow => exact tellActs_deeds h _ _ _
    | error fault => rfl

/-- A phase comes to its deeds, if its body and calls do. -/
theorem Phase.acts_deeds {α : Type} (p : Phase) (body : World → Result α) {inside : World → List Act}
    {done : World → List Deed} (hbody : ∀ w, (inside w).map Act.deed = done w) (w : World) :
    (p.acts caller called body inside w).map Act.deed = p.deeds caller deeds body done w := by
  simp only [Phase.acts, Phase.deeds]
  split
  · rw [List.map_append, tellActs_deeds h]
    congr 1
    refine map_actsThen _ fun _ w' => ?_
    rw [List.map_append, hbody, closingActs_deeds h]
  · rfl

end Lines

/-- A check that is repeated comes to its deeds, if one check does. -/
theorem repeatActs_deeds (deadline : Float) (interval : Value) (check : World → Result (Option Value))
    {once : World → List Act} {done : World → List Deed} (h : ∀ w, (once w).map Act.deed = done w) (n : Nat)
    (w : World) :
    (repeatActs deadline interval check once n w).map Act.deed = repeatDeeds deadline interval check done n w := by
  induction n generalizing w with
  | zero => rfl
  | succ n ih =>
    simp only [repeatActs, repeatDeeds, List.map_append, h]
    congr 1
    rcases checked (check w).1 with fault | (_ | v)
    · rfl
    · simp only
      split
      · rfl
      · rw [List.map_cons, map_actsThen _ fun _ => ih]
        rfl
    · rfl

/-- What the run of a program does comes to its deeds, if calls do. -/
theorem Prog.acts_deeds {caller : Caller} {called : CallActs} {deeds : Called} {rounds : Nat}
    (h : ∀ f args named w, (called f args named w).map Act.deed = deeds f args named w) {α : Type} (p : Prog α)
    (w : World) : (p.acts caller called rounds w).map Act.deed = p.deeds caller deeds rounds w := by
  induction p generalizing w with
  | done a => rfl
  | fail r => rfl
  | perform op next ih =>
    simp only [acts, Prog.deeds, List.map_cons, ih]
    rfl
  | invoke f args named next ih => simp only [acts, Prog.deeds, List.map_append, h, map_actsThen _ ih]
  | tell e next ih =>
    simp only [acts, Prog.deeds, List.map_append, tellActs_deeds h, map_actsThen _ fun _ => ih]
  | attempt body next ihbody ih => simp only [acts, Prog.deeds, List.map_append, ihbody, ih]
  | phase p body next ihbody ih =>
    simp only [acts, Prog.deeds, List.map_append, p.acts_deeds h _ ihbody, map_actsThen _ ih]
  | await p check next ihcheck ih =>
    simp only [acts, Prog.deeds, List.map_append, repeatActs_deeds _ _ _ ihcheck, map_actsThen _ ih]

/-- What is done next in two parts is what is done in one after the other. -/
theorem deedsThen_andThen {α β : Type} (r : Result α) {run : α → World → Result β}
    {first both : α → World → List Deed} {next : β → World → List Deed}
    (h : ∀ a w, both a w = first a w ++ deedsThen (run a w) next) :
    deedsThen r both = deedsThen r first ++ deedsThen (Prog.andThen r run) next := by
  rcases r with ⟨_ | a, w⟩
  · rfl
  · exact h a w

/-- The deeds of a program that goes on are those of its parts, in order. -/
theorem Prog.deeds_bind {caller : Caller} {called : Called} {rounds : Nat} {α β : Type} (p : Prog α)
    (k : α → Prog β) (w : World) :
    (p.bind k).deeds caller called rounds w =
      p.deeds caller called rounds w ++
        deedsThen (p.run caller rounds w) fun a => (k a).deeds caller called rounds := by
  induction p generalizing w with
  | done a => rfl
  | fail r => rfl
  | perform op next ih => simp only [bind, Prog.deeds, run, ih, List.cons_append]
  | invoke f args named next ih =>
    simp only [bind, Prog.deeds, run, List.append_assoc, deedsThen_andThen _ fun v => ih v k]
  | tell e next ih =>
    simp only [bind, Prog.deeds, run, List.append_assoc, deedsThen_andThen _ fun _ => ih k]
  | attempt body next _ ih => simp only [bind, Prog.deeds, run, ih, List.append_assoc]
  | phase p body next _ ih =>
    simp only [bind, Prog.deeds, run, List.append_assoc, deedsThen_andThen _ fun b => ih b k]
  | await p check next _ ih =>
    simp only [bind, Prog.deeds, run, List.append_assoc, deedsThen_andThen _ fun v => ih v k]

namespace OnCall

variable {caller : Caller} {called : CallActs} {deeds : Called} {rounds : Nat}
  (h : ∀ f args named w, (called f args named w).map Act.deed = deeds f args named w)

include h

/-- To keep the page comes to its deeds, if calls do. -/
theorem keepingActs_deeds (c : OnCall) (page : Value) (w : World) :
    (c.keepingActs caller called rounds page w).map Act.deed = (c.keeping page).deeds caller deeds rounds w := by
  unfold keepingActs
  split
  · rename_i id hsetter hid
    simp [keeping, Prog.setAttribute, Prog.view, Prog.op, Prog.bind, Prog.deeds, Op.run, hsetter, hid,
      Prog.ofOption, Prog.setOwnField, Prog.currentPage, Act.deed]
  · exact Prog.acts_deeds h _ w

/-- To construct a page through an instance comes to its deeds, if calls do. -/
theorem acts_deeds (c : OnCall) (w : World) :
    (c.acts caller called rounds w).map Act.deed = c.program.deeds caller deeds rounds w := by
  rw [acts, program, List.map_append, Prog.acts_deeds h, Prog.deeds_bind]
  congr 1
  refine map_actsThen _ fun page w => ?_
  rw [List.map_append, keepingActs_deeds h, Prog.deeds_bind]
  congr 1
  exact map_actsThen _ fun _ => Prog.acts_deeds h _

end OnCall

/-- What a call does comes to its deeds. -/
theorem callActs_deeds (rounds depth : Nat) (f : Value) (args : List Value) (named : Named) (w : World) :
    (callActs rounds depth f args named w).map Act.deed = callDeeds rounds depth f args named w := by
  induction depth generalizing f args named w with
  | zero => rfl
  | succ depth ih =>
    simp only [callActs, callDeeds]
    split
    · rename_i c hcall
      rw [enter_of_onCall hcall]
      exact c.acts_deeds ih w
    · exact Prog.acts_deeds ih _ w

/-- What a step of a script does comes to its deeds. -/
theorem Step.acts_deeds (step : Step) (w : World) : (step.acts w).map Act.deed = step.deeds w := by
  rw [Step.acts, Step.deeds, List.map_cons, Prog.acts_deeds (callActs_deeds _ _)]
  rfl

/-- What a script does comes to its deeds. -/
theorem scriptActs_deeds (steps : List Step) (w : World) :
    (scriptActs steps w).map Act.deed = scriptDeeds steps w := by
  induction steps generalizing w with
  | nil => rfl
  | cons step rest ih => rw [scriptActs, scriptDeeds, List.map_append, step.acts_deeds, ih]

/-- A script leaves the world that its acts leave. -/
theorem scriptActs_world (steps : List Step) (w : World) : worldAfter steps w = w.afterActs (scriptActs steps w) := by
  rw [World.afterActs, scriptActs_deeds, ← script_world]

end PageObjects
