import LiveConsole.Proofs.Actions.Order
import LiveConsole.Proofs.Starter.Growth
import LiveConsole.Proofs.Starter.Run

/-!
# A start that is put off

A starter whose hook has not fired puts its console off: it registers one request under the name of the
hook, and does nothing more. The request is never taken back. So each later firing of the hook runs the
console once, the second one like the first, and firings of other actions answer the requests that were
made for those. A starter whose hook has fired runs its console at once, and registers nothing.
-/
namespace LiveConsole.Starter

open Program (Keeps)

variable {Reader Outside : Type}

/-- The actions that the hook belongs to, as they are now. -/
def registryOf (host : Host (State Outside)) : Actions Unit := host.outside.actions.getD host.actions

/-- A host whose actions, those that the hook belongs to, are changed. -/
def withRegistry (change : Actions Unit → Actions Unit) (host : Host (State Outside)) : Host (State Outside) :=
  match host.outside.actions with
  | some actions => { host with outside := { host.outside with actions := some (change actions) } }
  | none => { host with actions := change host.actions }

/-- What becomes of the actions that the hook belongs to is what they are changed to. -/
@[simp]
theorem registryOf_withRegistry (change : Actions Unit → Actions Unit) (host : Host (State Outside)) :
    registryOf (withRegistry change host) = change (registryOf host) := by
  unfold registryOf withRegistry
  cases own : host.outside.actions with
  | some actions => rfl
  | none => simp [own]

/-- Where a host grows, the requests stay those that were made. -/
theorem Grows.registrations_registryOf {bootstrap : Option String} {before after : Host (State Outside)}
    (grown : Grows bootstrap before after) :
    (registryOf after).registrations = (registryOf before).registrations := by
  have own := grown.ownRequests
  unfold registryOf
  cases known : before.outside.actions with
  | none =>
    rw [known] at own
    rw [Option.map_eq_none_iff.1 own]
    exact grown.hostRequests
  | some actions =>
    rw [known] at own
    obtain ⟨found, is, same⟩ := Option.map_eq_some_iff.1 own
    rw [is]
    exact same

/-! ## Firings -/

/-- A store in which one more firing of an action is counted. -/
def counting (name : String) (store : Everything Outside) : Everything Outside :=
  { store with world := withRegistry (·.begin name) store.world }

/-- Changing the actions that the hook belongs to changes nothing else. -/
theorem updateRegistry_run (change : Actions Unit → Actions Unit) (store : Everything Outside) :
    (updateRegistry change : Step Outside Unit).run store =
      (.ok (), { store with world := withRegistry change store.world }) := by
  have asked : (updateRegistry change : Step Outside Unit).run store =
      (match store.world.outside.actions with
        | some actions => update fun state => { state with actions := some (change actions) }
        | none => Host.update fun host => { host with actions := change host.actions } :
          Step Outside Unit).run store :=
    rfl
  rw [asked, withRegistry]
  cases store.world.outside.actions <;> rfl

/-- The steps for the members of a list do not depend on which the members are. -/
theorem forM_const {First Second : Type} (call : Step Outside Unit) {first : List First}
    {second : List Second} (same : first.length = second.length) :
    (first.forM fun _ => call) = second.forM fun _ => call := by
  induction first generalizing second with
  | nil => rw [List.length_eq_zero_iff.1 same.symm]; rfl
  | cons member first ih =>
    cases second with
    | nil => cases same
    | cons other second => exact congrArg (call >>= ·) (funext fun _ => ih (Nat.succ.inj same))

/-- The steps for the members of a list are done one after another, up to the first that ends in a fault. -/
theorem forM_cons_run {Item : Type} (step : Item → Step Outside Unit) (item : Item) (rest : List Item)
    (store : Everything Outside) :
    ((item :: rest).forM step).run store =
      match (step item).run store with
      | (.ok _, after) => (rest.forM step).run after
      | (.error fault, after) => (.error fault, after) := by
  change (step item >>= fun _ => rest.forM step).run store = _
  rw [Host.run_bind]
  rcases (step item).run store with ⟨_ | _, after⟩ <;> rfl

/-- A firing is counted, and then each request that was made for the action is answered. -/
theorem fire_run (call : Step Outside Unit) (name : String) (store : Everything Outside) :
    (fire call name).run store =
      (((registryOf store.world).registrations.filter fun request => request.action = name).forM
        fun _ => call).run (counting name store) := by
  have called : (fire call name).run store =
      (((registryOf (counting name store).world).called name).forM fun _ => call).run
        (counting name store) := by
    rw [fire, Host.run_bind, updateRegistry_run]
    rfl
  rw [called, counting, registryOf_withRegistry, Actions.called, Actions.registrations_begin,
    forM_const call (Registration.inOrder_perm _).length_eq]

/-! ## Firings one after another -/

variable (around : Surroundings Reader Outside)

/-- What firings come to if each request that was made for their actions is answered at each of them. -/
def answerEach (requests : List (Registration Unit)) (names : List String) : Step Outside Unit :=
  names.forM fun name => do
    updateRegistry (·.begin name)
    (requests.filter fun request => request.action = name).forM fun _ => answerHook around

/-- Firings let the host grow. -/
theorem fireAction_grows {origin : Host (State Outside)} (name : String) :
    Keeps (Grows (bootstrap? around) origin) (fireAction around name) := by
  intro store held
  have counted : Grows (bootstrap? around) store.world (counting name store).world := by
    unfold counting withRegistry
    dsimp only
    split
    · rename_i own
      exact .of_same rfl rfl (by simp [own]) rfl rfl rfl
    · exact .of_same rfl rfl rfl rfl rfl rfl
  rw [fireAction, fire_run]
  exact Keeps.forM (fun _ => answerHook_grows around) _ _ (held.trans counted)

/-- Firings one after another answer, each of them, the requests that were there before the first one. -/
theorem fireAll_run (names : List String) {requests : List (Registration Unit)} {store : Everything Outside}
    (made : (registryOf store.world).registrations = requests) :
    (names.forM (fireAction around)).run store = (answerEach around requests names).run store := by
  induction names generalizing store with
  | nil => rfl
  | cons name names ih =>
    have first : (fireAction around name).run store = (do
        updateRegistry (·.begin name)
        (requests.filter fun request => request.action = name).forM fun _ => answerHook around :
          Step Outside Unit).run store := by
      rw [fireAction, fire_run, Host.run_bind, updateRegistry_run, made]
      rfl
    have grown := fireAction_grows around name store (.refl store.world)
    rw [forM_cons_run, answerEach, forM_cons_run, ← first]
    generalize (fireAction around name).run store = outcome at grown ⊢
    rcases outcome with ⟨_ | _, after⟩
    · rfl
    · exact ih (grown.registrations_registryOf.trans made)

/-! ## Putting the start off -/

/-- The request that a starter makes when it puts its console off. -/
def request (hook : String) (store : Everything Outside) : Registration Unit :=
  ⟨hook, .usual, (registryOf store.world).registrations.length, ()⟩

/-- A store in which it is noted that the console is put off, and requested under the name of the hook. -/
def deferred (hook : String) (store : Everything Outside) : Everything Outside :=
  let noted := withOutside
    (around.note ⟨.debug, logger, "Deferring shell until '" ++ hook ++ "' fires"⟩ (outsideOf store)) store
  { noted with world := withRegistry (·.add hook () .usual) noted.world }

/-- What a starter does whose options name a hook: it starts at once if the hook fired, else it makes its
request. -/
theorem invoke_run {hook : String} (asked : around.options.hook = some hook)
    (sound : Text.allBlank hook = false) (store : Everything Outside) :
    (invoke around).run store =
      if 0 < (registryOf store.world).count hook then (some <$> run around).run store
      else (.ok none, deferred around hook store) := by
  have chosen : (invoke around).run store =
      (if 0 < (registryOf store.world).count hook then some <$> run around
        else do
          note around .debug ("Deferring shell until '" ++ hook ++ "' fires")
          updateRegistry (·.add hook () .usual)
          return none : Step Outside (Option Nat)).run store := by
    unfold invoke
    rw [asked]
    simp only [sound, Bool.false_eq_true, if_false]
    rfl
  rw [chosen]
  split
  · rfl
  · have noted : (note around .debug ("Deferring shell until '" ++ hook ++ "' fires")).run store =
        (.ok (), withOutside
          (around.note ⟨.debug, logger, "Deferring shell until '" ++ hook ++ "' fires"⟩ (outsideOf store))
          store) := rfl
    rw [Host.run_bind, noted]
    simp only
    rw [Host.run_bind, updateRegistry_run]
    rfl

/-- A starter that puts its console off makes one request, and each later firing of the hook runs the console
once: the first firing like all others, however many there are and whatever is fired in between. No console
runs before the first of them, and other actions answer the requests that were made for them. -/
theorem deferred_start_answers_every_firing {hook : String} (store : Everything Outside)
    (asked : around.options.hook = some hook) (sound : Text.allBlank hook = false)
    (unfired : (registryOf store.world).count hook = 0)
    (unrequested :
      ((registryOf store.world).registrations.filter fun request => request.action = hook) = []) :
    let requests := (registryOf store.world).registrations ++ [request hook store]
    (invoke around).run store = (.ok none, deferred around hook store) ∧
      (requests.filter fun request => request.action = hook) = [request hook store] ∧
      ∀ names, (names.forM (fireAction around)).run (deferred around hook store) =
        (answerEach around requests names).run (deferred around hook store) := by
  intro requests
  refine ⟨?_, ?_, fun names => fireAll_run around names ?_⟩
  · rw [invoke_run around asked sound, unfired, if_neg (Nat.lt_irrefl 0)]
  · rw [List.filter_append, unrequested]
    simp [request]
  · rw [deferred, registryOf_withRegistry]
    rfl

/-- A starter that starts at once makes no request: no later firing of the hook runs its console again. -/
theorem immediate_start_answers_no_firing {hook : String} {store after : Everything Outside} {code : Nat}
    (asked : around.options.hook = some hook) (sound : Text.allBlank hook = false)
    (fired : 0 < (registryOf store.world).count hook)
    (started : (run around).run store = (.ok code, after)) :
    (invoke around).run store = (.ok (some code), after) ∧
      ∀ names, (names.forM (fireAction around)).run after =
        (answerEach around (registryOf store.world).registrations names).run after := by
  have grown := run_grows around store (.refl store.world)
  rw [started] at grown
  refine ⟨?_, fun names => fireAll_run around names grown.registrations_registryOf⟩
  rw [invoke_run around asked sound, if_pos fired, map_eq_pure_bind, Host.run_bind, started]
  rfl

/-- A starter whose hook is called `init`, and which counts the consoles that came to an end. -/
def deferringStarter : Surroundings Unit Nat :=
  { watchfulStarter with
    options := { Options.usual with hook := some "init", quiet := true }
    finish := fun _ _ count => count + 1 }

/-- Two firings of the hook run two consoles, and a firing of another action between them runs none. -/
theorem deferred_start_answers_two_firings :
    let store := deferred deferringStarter "init" freshStore
    (invoke deferringStarter).run freshStore = (.ok none, store) ∧
      (["init", "other", "init"].forM (fireAction deferringStarter)).run store =
        (answerEach deferringStarter [⟨"init", .usual, 0, ()⟩] ["init", "other", "init"]).run store ∧
      outsideOf ((["init", "other", "init"].forM (fireAction deferringStarter)).run store).2 = 2 := by
  obtain ⟨put, _, answered⟩ := deferred_start_answers_every_firing deferringStarter freshStore rfl
    (by decide) rfl rfl
  refine ⟨put, answered ["init", "other", "init"], ?_⟩
  rw [answered]
  decide +kernel

end LiveConsole.Starter
