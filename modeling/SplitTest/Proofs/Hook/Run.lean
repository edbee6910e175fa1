import SplitTest.Proofs.Hook.Call

/-!
# Runs

A run is a visit that goes on: hook calls in any order, and between them whatever the
site does, which begins requests, sends responses, and replaces the dataset, the
configuration or the draws.  The session is the one thing that only calls can write.

`Visit.calls` lists the calls of a run, each with the visit that it found.
-/

namespace SplitTest

open SplitTest.Store

/-- A step of a run. -/
inductive VisitStep (σ : Type) where
  /-- A hook is called. -/
  | call (c : HookCall)
  /-- A new request begins. -/
  | begin (r : Request) (scripts : ScriptRegistry)
  /-- The response is sent. -/
  | sendHeaders
  /-- Datasets come from elsewhere. -/
  | replaceSource (source : σ)
  /-- The site is configured anew. -/
  | replaceConfig (config : SiteConfig)
  /-- Draws come from elsewhere. -/
  | replaceDraws (draws : Draws)

namespace Visit
variable {σ : Type} (source : Source σ)

/-- What a call reads: the dataset if its gate lets it, what reading reports, and the
source after it. -/
def read (v : Visit σ) (c : HookCall) : Except StoreError Dataset × List Event × σ :=
  if c.readsDataset v.settings v.request then source v.source
  else (.ok .empty, [], v.source)

/-- What a call does with what it reads. -/
def result (v : Visit σ) (c : HookCall) : HookResult HookAnswer :=
  c.run v.settings v.request (v.read source c).1 v.host v.draws

/-- One step. -/
def step (v : Visit σ) : VisitStep σ → Visit σ
  | .call c => (v.call source c).2
  | .begin r scripts => v.begin r scripts
  | .sendHeaders => v.sendHeaders.2
  | .replaceSource s => { v with source := s }
  | .replaceConfig config => { v with host := { v.host with config := config } }
  | .replaceDraws draws => { v with draws := draws }

/-- The visit after a run. -/
def run (v : Visit σ) (steps : List (VisitStep σ)) : Visit σ :=
  steps.foldl (step source) v

/-- The calls of a run, each with the visit that it found. -/
def calls (v : Visit σ) : List (VisitStep σ) → List (Visit σ × HookCall)
  | [] => []
  | .call c :: steps => (v, c) :: calls (v.call source c).2 steps
  | step :: steps => calls (v.step source step) steps

/-- A visit to a site with a coin as its only experiment, where every draw is one. -/
def ofCoin (sc : Scope) (r : Request) : Visit (Except StoreError Dataset) :=
  ⟨.ok (.ofList [Entry.coin sc]), .standard, r, default, .constant 1, []⟩

section
variable {source} {v : Visit σ}

/-- A call in terms of what it reads and what it does with it. -/
theorem call_eq {c : HookCall} :
    v.call source c = ((v.result source c).answer,
      { v with
        source := (v.read source c).2.2
        host := (v.result source c).host
        draws := (v.result source c).draws
        events := v.events ++ (v.read source c).2.1 ++ (v.result source c).events }) := rfl

theorem answer_call {c : HookCall} : (v.call source c).1 = (v.result source c).answer := rfl

theorem host_call {c : HookCall} : (v.call source c).2.host = (v.result source c).host := rfl

theorem draws_call {c : HookCall} : (v.call source c).2.draws = (v.result source c).draws := rfl

@[simp] theorem run_nil : v.run source [] = v := rfl

@[simp] theorem run_cons {step : VisitStep σ} {steps : List (VisitStep σ)} :
    v.run source (step :: steps) = (v.step source step).run source steps := rfl

theorem run_append {steps steps' : List (VisitStep σ)} :
    v.run source (steps ++ steps') = (v.run source steps).run source steps' :=
  List.foldl_append

/-- The calls of a run go on from those of its first part. -/
theorem calls_append {before after : List (VisitStep σ)} :
    ∀ v : Visit σ, v.calls source (before ++ after) =
      v.calls source before ++ (v.run source before).calls source after := by
  induction before with
  | nil => exact fun v => rfl
  | cons step before ih =>
    intro v
    cases step with
    | call c => exact congrArg (List.cons (v, c)) (ih _)
    | _ => exact ih _

/-- No step of a run touches the settings. -/
@[simp] theorem settings_run (steps : List (VisitStep σ)) :
    ∀ v : Visit σ, (v.run source steps).settings = v.settings := by
  induction steps with
  | nil => intro v; rfl
  | cons step steps ih =>
    intro v
    rw [run_cons, ih]
    cases step <;> rfl

/-- Between calls the session stays as it is. -/
theorem session_step_of_ne_call {step : VisitStep σ} (h : ∀ c, step ≠ .call c) :
    (v.step source step).host.session = v.host.session := by
  cases step with
  | call c => exact absurd rfl (h c)
  | _ => rfl

theorem calls_cons_of_ne_call {step : VisitStep σ} {steps : List (VisitStep σ)}
    (h : ∀ c, step ≠ .call c) :
    v.calls source (step :: steps) = (v.step source step).calls source steps := by
  cases step with
  | call c => exact absurd rfl (h c)
  | _ => rfl

end

end Visit

end SplitTest
