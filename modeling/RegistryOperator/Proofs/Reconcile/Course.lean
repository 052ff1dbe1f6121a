import RegistryOperator.Proofs.Reconcile.Minutes

/-! The course of a pass: all that it asks and hears, in its order. There are only so many courses.
A pass looks at the registry, asks at most once for the objects that the registry needs, looks at
the deployment and the clock, and writes what changed: metadata and spec at first, then the status.
What calls and writes there are, and when, is read off the courses. -/

namespace RegistryOperator

namespace PassQuestion

/-- Whether the objects that a registry needs are asked for. -/
def isCall : PassQuestion → Bool
  | .apply _ => true
  | .remove _ => true
  | .finalize _ => true
  | _ => false

def isWrite : PassQuestion → Bool
  | .write _ _ => true
  | _ => false

def isEffect (q : PassQuestion) : Bool := q.isCall || q.isWrite

def isReport : PassQuestion → Bool
  | .report _ => true
  | _ => false

end PassQuestion

/-- What was asked and answered, the first standing first, without the reports. -/
def transcript : List (Exchange surroundings) → List (Exchange surroundings)
  | [] => []
  | e :: heard => if PassQuestion.isReport e.1 then transcript heard else transcript heard ++ [e]

/-- The calls and the writes. -/
def effects (said : List (Exchange surroundings)) : List (Exchange surroundings) :=
  said.filter fun e => PassQuestion.isEffect e.1

theorem transcript_append (later heard : List (Exchange surroundings)) :
    transcript (later ++ heard) = transcript heard ++ transcript later := by
  induction later with
  | nil => simp [transcript]
  | cons e later ih =>
      rw [List.cons_append, transcript, transcript, ih]
      split_ifs
      · rfl
      · exact List.append_assoc ..

namespace ImageRegistry

/-- The registry as a pass that keeps it goes on with it: with the operator's finalizer. -/
def held (r : ImageRegistry) : ImageRegistry :=
  { r with metadata := r.metadata.addFinalizer finalizer }

/-- The registry at the version of another one. -/
def atVersionOf (r stored : ImageRegistry) : ImageRegistry :=
  { r with metadata := { r.metadata with resourceVersion := stored.metadata.resourceVersion } }

end ImageRegistry

namespace Course

/-- Applying a management state, and what comes of it. -/
inductive Call (r : ImageRegistry) : Applied → List (Exchange surroundings) → Prop
  | apply (hstate : r.spec.managementState = .managed) (hverify : r.spec.verify = .ok ())
    (answer : Except GeneratorError Unit) :
    Call r (answer.mapError .ofGenerator) [⟨.apply r, answer⟩]
  | remove (hstate : r.spec.managementState = .removed) (answer : Except GeneratorError Unit) :
    Call r (answer.mapError .ofGenerator) [⟨.remove r, answer⟩]
  | none (hmanaged : r.spec.managementState = .managed → r.spec.verify ≠ .ok ())
    (hremoved : r.spec.managementState ≠ .removed) : Call r (Minutes.start r).applied []

/-- Writing the status of a registry over the one that was shown. -/
inductive StatusWrite (shown r : ImageRegistry) : List (Exchange surroundings) → Prop
  | same (hsame : r.status = shown.status) : StatusWrite shown r []
  | write (hchanged : r.status ≠ shown.status) (answer : Except StoreError ImageRegistry) :
    StatusWrite shown r [⟨.write .updateStatus r, answer⟩]

/-- Writing a registry over the one that was shown. -/
inductive Writes (shown r : ImageRegistry) : List (Exchange surroundings) → Prop
  | same (hsame : r.metadata = shown.metadata ∧ r.spec = shown.spec)
    {said : List (Exchange surroundings)} (hstatus : StatusWrite shown r said) :
    Writes shown r said
  | refused (hchanged : ¬ (r.metadata = shown.metadata ∧ r.spec = shown.spec)) (e : StoreError) :
    Writes shown r [⟨.write .update r, .error e⟩]
  | accepted (hchanged : ¬ (r.metadata = shown.metadata ∧ r.spec = shown.spec))
    (stored : ImageRegistry) {said : List (Exchange surroundings)}
    (hstatus : StatusWrite shown (r.atVersionOf stored) said) :
    Writes shown r (⟨.write .update r, .ok stored⟩ :: said)

/-- Looking at the deployment and the clock. -/
def looks (deployment : Option Deployment) (readings : Readings) : List (Exchange surroundings) :=
  [⟨.deployment registryName, .ok deployment⟩, ⟨.readings, readings⟩]

/-- A pass over a registry that is to stay. -/
inductive Upkeep (shown : ImageRegistry) : List (Exchange surroundings) → Prop
  | blind {applied : Applied} {calls : List (Exchange surroundings)}
    (hcalls : Call shown.held applied calls) (e : ListerError) :
    Upkeep shown (calls ++ [⟨.deployment registryName, .error e⟩])
  | write {applied : Applied} {calls said : List (Exchange surroundings)}
    (hcalls : Call shown.held applied calls) (deployment : Option Deployment) (readings : Readings)
    (hwrites : Writes shown (shown.held.observed readings deployment applied) said) :
    Upkeep shown (calls ++ looks deployment readings ++ said)

/-- A pass over a registry that is to be deleted. -/
inductive Departure (shown : ImageRegistry) : List (Exchange surroundings) → Prop
  | free (hfree : shown.metadata.hasFinalizer ImageRegistry.finalizer = false) : Departure shown []
  | kept (hheld : shown.metadata.hasFinalizer ImageRegistry.finalizer = true)
    (answer : Except GeneratorError Teardown) (hanswer : answer ≠ .ok .complete) :
    Departure shown [⟨.finalize shown, answer⟩]
  | released (hheld : shown.metadata.hasFinalizer ImageRegistry.finalizer = true)
    (answer : Except StoreError ImageRegistry) :
    Departure shown [⟨.finalize shown, .ok .complete⟩,
      ⟨.write .update { shown with
        metadata := shown.metadata.removeFinalizer ImageRegistry.finalizer }, answer⟩]

/-- What a pass reports that created the registry, or was told that someone else did. -/
def created : Except StoreError ImageRegistry → Except PassError Unit
  | .ok _ => .ok ()
  | .error e => if e.isAlreadyExists then .ok () else .error (.bootstrap e)

end Course

/-- The courses of a pass, with what it reports of a registry that was missing. -/
inductive Course (bootstrapSpec : RegistrySpec) :
    Except PassError Unit → List (Exchange surroundings) → Prop
  | blind (e : ListerError) (result : Except PassError Unit) :
    Course bootstrapSpec result [⟨.registry ImageRegistry.clusterName, .error e⟩]
  | missing (answer : Except StoreError ImageRegistry) :
    Course bootstrapSpec (Course.created answer)
      [⟨.registry ImageRegistry.clusterName, .ok none⟩,
        ⟨.write .create (.bootstrap bootstrapSpec), answer⟩]
  | leaving {shown : ImageRegistry} (hdelete : shown.metadata.isDeleteRequested = true)
    {said : List (Exchange surroundings)} (hsaid : Course.Departure shown said)
    (result : Except PassError Unit) :
    Course bootstrapSpec result
      (⟨.registry ImageRegistry.clusterName, .ok (some shown)⟩ :: said)
  | staying {shown : ImageRegistry} (hstay : shown.metadata.isDeleteRequested = false)
    {said : List (Exchange surroundings)} (hsaid : Course.Upkeep shown said)
    (result : Except PassError Unit) :
    Course bootstrapSpec result
      (⟨.registry ImageRegistry.clusterName, .ok (some shown)⟩ :: said)

namespace Pass

variable {α β : Type} {p : PassProgram α} {Q R : α → List (Exchange surroundings) → Prop}

/-- Whatever is answered, a part of a pass takes its course. -/
def Follows (Q : α → List (Exchange surroundings) → Prop) (p : PassProgram α) : Prop :=
  p.Always fun a heard => Q a (transcript heard)

theorem Follows.pure {a : α} (ha : Q a []) : Follows Q (pure a : PassProgram α) := ha

theorem Follows.mono (hp : Follows Q p) (hQ : ∀ a said, Q a said → R a said) : Follows R p :=
  Program.Always.mono hp fun a _ => hQ a _

theorem Follows.bind {S : β → List (Exchange surroundings) → Prop} {f : α → PassProgram β}
    (hp : Follows Q p)
    (hf : ∀ a said, Q a said → Follows (fun b rest => S b (said ++ rest)) (f a)) :
    Follows S (p >>= f) := by
  refine Program.Always.bind hp fun a heard ha => ?_
  refine Program.Always.mono (hf a _ ha) fun b later hb => ?_
  rwa [transcript_append]

theorem Follows.ask_bind {q : PassQuestion} {next : q.Answer → PassProgram α}
    (hq : q.isReport = false)
    (hnext : ∀ answer, Follows (fun a rest => Q a (⟨q, answer⟩ :: rest)) (next answer)) :
    Follows Q (ask q >>= next) := by
  intro answer
  refine Program.Always.mono (hnext answer) fun a later ha => ?_
  let e : Exchange surroundings := ⟨q, answer⟩
  have hfirst : transcript [e] = [e] := if_neg (ne_true_of_eq_false hq)
  change Q a (transcript (later ++ [e]))
  rwa [transcript_append, hfirst, List.singleton_append]

theorem Follows.report_bind {level : LogLevel} {message : String} {next : Unit → PassProgram α}
    (hnext : Follows Q (next ())) : Follows Q (report level message >>= next) := by
  intro answer
  refine Program.Always.mono hnext fun a later ha => ?_
  let e : Exchange surroundings := ⟨.report ⟨level, message⟩, answer⟩
  change Q a (transcript (later ++ [e]))
  rwa [transcript_append]

theorem Follows.reportFailure_bind {what name : String} {e : StoreError}
    {next : Unit → PassProgram α} (hnext : Follows Q (next ())) :
    Follows Q (reportFailure what name e >>= next) := by
  unfold reportFailure
  split_ifs
  · exact hnext
  · exact .report_bind hnext

end Pass
end RegistryOperator
