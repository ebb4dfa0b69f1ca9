import Mathlib.Data.List.Find
import Scaffold.Proofs.Buffering
import Scaffold.Proofs.Stores
import Scaffold.Proofs.Tables

/-!
Sinks in memory, opened and given back in any order.

What the store holds under a path is what has been appended to the sink that was released last among
those for an equal path. Sinks that are still out, and those that have been dropped, do not show in
it, and no sink is changed by what is done with another.
-/
namespace Scaffold

/-! ### Steps -/

/-- A sink is asked for, or something is done with one; sinks are numbered as they are opened. -/
inductive MemoryStep where
  | ask (path : String)
  | turn (i : Nat) (step : SinkStep)

/-- A store with the sinks that have been opened in it, as far as they are still there. -/
structure MemorySession where
  store : MemoryStore
  sinks : List (Option MemorySink)

namespace SinkStep

def isRelease : SinkStep → Bool
  | release => true
  | _ => false

theorem isRelease_iff {step : SinkStep} : step.isRelease = true ↔ step = .release := by
  cases step <;> simp [isRelease]

/-- What is appended in a step. -/
def text : SinkStep → String
  | append text => text
  | _ => ""

/-- Does a step with a sink in memory, which has nothing to be closed, and gives the sink back
unless it is gone. -/
def performInMemory (k : MemorySink) : SinkStep → StateM MemoryStore (Option MemorySink)
  | append text => do
    let (_, k) ← MemoryStore.provider.append k text
    pure (some k)
  | close => pure (some k)
  | release => do
    let _ ← MemoryStore.provider.release k
    pure none
  | drop => pure none

theorem run_performInMemory (k : MemorySink) (step : SinkStep) (store : MemoryStore) :
    (step.performInMemory k).run store =
      (if step.letsGo then none else some (k.append step.text),
        if step.isRelease then store.release k else store) := by
  have hnothing : k.append "" = k := by rw [MemorySink.append, String.append_empty]
  cases step with
  | append text => rfl
  | close =>
    change (some k, store) = (some (k.append ""), store)
    rw [hnothing]
  | release => rfl
  | drop => rfl

end SinkStep

namespace MemorySession

/-- Does a step; nothing comes of one with a sink that is not there. -/
def take (s : MemorySession) : MemoryStep → MemorySession
  | .ask path =>
    match (MemoryStore.provider.openSink path).run s.store with
    | (.opened k, store) => ⟨store, s.sinks ++ [some k]⟩
    | (_, store) => { s with store }
  | .turn i step =>
    match s.sinks[i]? with
    | some (some k) =>
      let (k?, store) := (step.performInMemory k).run s.store
      ⟨store, s.sinks.set i k?⟩
    | _ => s

def takeAll (s : MemorySession) (steps : List MemoryStep) : MemorySession := steps.foldl take s

end MemorySession

/-- Whether a sink can be had for a path. -/
def MemoryStore.accepts (store : MemoryStore) (path : String) : Bool :=
  !store.declined.any (Path.same path) && !store.unavailable.any (Path.same path)

/-! ### What has been done

The steps that have been taken are listed with the last one first. -/

namespace MemoryStep

section

variable (accepts : String → Bool)

/-- The paths that sinks have been opened for, in the order of the sinks. -/
def opened : List MemoryStep → List String
  | [] => []
  | ask path :: past => if accepts path then opened past ++ [path] else opened past
  | turn _ _ :: past => opened past

/-- Whether a sink has been opened and neither released nor dropped since. -/
def isOut : List MemoryStep → Nat → Bool
  | [], _ => false
  | ask path :: past, i => accepts path && i == (opened accepts past).length || isOut past i
  | turn j step :: past, i => isOut past i && !(i == j && step.letsGo)

/-- All that has been appended to a sink. -/
def appended : List MemoryStep → Nat → String
  | [], _ => ""
  | ask _ :: past, i => appended past i
  | turn j step :: past, i =>
    if isOut accepts past i && i == j then appended past i ++ step.text else appended past i

/-- The sinks that have been released, the last one first. -/
def released : List MemoryStep → List Nat
  | [] => []
  | ask _ :: past => released past
  | turn j step :: past =>
    if isOut accepts past j && step.isRelease then j :: released past else released past

/-- The sink that was released last among those for an equal path. -/
def latest (past : List MemoryStep) (path : String) : Option Nat :=
  (released accepts past).find? fun i => (opened accepts past)[i]?.any (Path.same path)

end

variable {accepts : String → Bool} {past : List MemoryStep} {i j : Nat} {step : SinkStep}
  {path p : String}

theorem opened_ask (accepts : String → Bool) (past : List MemoryStep) (path : String) :
    ∃ more, opened accepts (ask path :: past) = opened accepts past ++ more := by
  rw [opened]
  split
  · exact ⟨[path], rfl⟩
  · exact ⟨[], (List.append_nil _).symm⟩

theorem le_length_opened_ask (accepts : String → Bool) (past : List MemoryStep) (path : String) :
    (opened accepts past).length ≤ (opened accepts (ask path :: past)).length := by
  obtain ⟨more, hopened⟩ := opened_ask accepts past path
  rw [hopened, List.length_append]
  exact Nat.le_add_right _ _

/-- Opening a sink makes no difference to the sinks that there are. -/
theorem isOut_ask (h : i < (opened accepts past).length) (path : String) :
    isOut accepts (ask path :: past) i = isOut accepts past i := by
  have hne : (i == (opened accepts past).length) = false := beq_false_of_ne (Nat.ne_of_lt h)
  rw [isOut, hne, Bool.and_false, Bool.false_or]

theorem lt_of_isOut (h : isOut accepts past i = true) : i < (opened accepts past).length := by
  induction past with
  | nil => cases h
  | cons next past ih =>
    cases next with
    | ask path =>
      rw [isOut] at h
      rw [opened]
      grind
    | turn j step =>
      rw [isOut, Bool.and_eq_true] at h
      exact ih h.1

/-- A sink that has been released has been opened, and is gone. -/
theorem gone_of_mem_released (h : i ∈ released accepts past) :
    i < (opened accepts past).length ∧ isOut accepts past i = false := by
  induction past with
  | nil => cases h
  | cons next past ih =>
    cases next with
    | ask path =>
      obtain ⟨hlt, hgone⟩ := ih h
      exact ⟨hlt.trans_le (le_length_opened_ask accepts past path),
        (isOut_ask hlt path).trans hgone⟩
    | turn j step =>
      rw [opened, isOut]
      rw [released] at h
      split at h
      · next hj =>
        obtain ⟨hout, hrelease⟩ := Bool.and_eq_true_iff.1 hj
        rcases List.mem_cons.1 h with rfl | h
        · cases SinkStep.isRelease_iff.1 hrelease
          exact ⟨lt_of_isOut hout, by simp [SinkStep.letsGo]⟩
        · obtain ⟨hlt, hgone⟩ := ih h
          exact ⟨hlt, by rw [hgone, Bool.false_and]⟩
      · obtain ⟨hlt, hgone⟩ := ih h
        exact ⟨hlt, by rw [hgone, Bool.false_and]⟩

/-- Nothing is appended to a sink that is still to be opened. -/
theorem appended_of_le (h : (opened accepts past).length ≤ i) : appended accepts past i = "" := by
  induction past with
  | nil => rfl
  | cons next past ih =>
    cases next with
    | ask path =>
      rw [appended]
      exact ih ((le_length_opened_ask accepts past path).trans h)
    | turn j step =>
      have hout : isOut accepts past i = false := by
        rw [Bool.eq_false_iff]
        intro hout
        have hlt := lt_of_isOut hout
        rw [opened] at h
        omega
      rw [appended, hout, Bool.false_and]
      exact ih h

/-- Sinks that are opened later do not count for what has been released. -/
theorem latest_ask (accepts : String → Bool) (past : List MemoryStep) (p path : String) :
    latest accepts (ask p :: past) path = latest accepts past path := by
  obtain ⟨more, hopened⟩ := opened_ask accepts past p
  rw [latest, latest, released, hopened]
  apply List.find?_congr
  intro i hi
  rw [List.getElem?_append_left (gone_of_mem_released hi).1]

theorem mem_released_of_latest (h : latest accepts past path = some i) :
    i ∈ released accepts past := List.mem_of_find?_eq_some h

/-- Nothing comes of a step with a sink that is not there. -/
theorem turn_of_not_out (h : isOut accepts past j = false) (step : SinkStep) :
    isOut accepts (turn j step :: past) = isOut accepts past ∧
      appended accepts (turn j step :: past) = appended accepts past ∧
      latest accepts (turn j step :: past) = latest accepts past := by
  have hsame (i : Nat) (hi : i = j) : isOut accepts past i = false := hi ▸ h
  refine ⟨funext fun i => ?_, funext fun i => ?_, funext fun path => ?_⟩
  · rw [isOut]
    grind
  · rw [appended]
    grind
  · rw [latest, released, h]
    rfl

/-- What has been appended to the sinks that were released is not added to. -/
theorem map_appended_latest (accepts : String → Bool) (past : List MemoryStep) (step : MemoryStep)
    (path : String) : (latest accepts past path).map (appended accepts (step :: past)) =
      (latest accepts past path).map (appended accepts past) := by
  apply Option.map_congr
  intro i hi
  have hgone := (gone_of_mem_released (mem_released_of_latest hi)).2
  cases step with
  | ask p => rfl
  | turn j step => rw [appended, hgone, Bool.false_and, if_neg Bool.false_ne_true]

theorem latest_turn (hp : (opened accepts past)[j]? = some p) (hout : isOut accepts past j = true)
    (step : SinkStep) (path : String) : latest accepts (turn j step :: past) path =
      if step.isRelease && Path.same path p then some j else latest accepts past path := by
  rw [latest, latest, released, hout, opened, Bool.true_and]
  cases step.isRelease with
  | false => rfl
  | true =>
    rw [if_pos rfl, List.find?_cons, hp, Option.any_some, Bool.true_and]
    cases Path.same path p <;> rfl

/-- A sink that is gone without having been released never will be. -/
theorem not_released_of_gone (hlt : i < (opened accepts past).length)
    (hgone : isOut accepts past i = false) (hnot : i ∉ released accepts past)
    (later : List MemoryStep) : i ∉ released accepts (later ++ past) := by
  have hstays : i < (opened accepts (later ++ past)).length ∧
      isOut accepts (later ++ past) i = false ∧ i ∉ released accepts (later ++ past) := by
    induction later with
    | nil => exact ⟨hlt, hgone, hnot⟩
    | cons step later ih =>
      obtain ⟨hlt, hgone, hnot⟩ := ih
      rw [List.cons_append]
      cases step with
      | ask path =>
        exact ⟨hlt.trans_le (le_length_opened_ask accepts _ path),
          (isOut_ask hlt path).trans hgone, hnot⟩
      | turn j step =>
        refine ⟨hlt, ?_, ?_⟩
        · rw [isOut, hgone, Bool.false_and]
        · rw [released]
          split
          · next hj =>
            -- the sink that is released is out, so it is another one
            have hne : i ≠ j := by
              rintro rfl
              rw [hgone] at hj
              cases hj
            exact List.not_mem_cons_of_ne_of_not_mem hne hnot
          · exact hnot
  exact hstays.2.2

end MemoryStep

/-! ### Stores and sinks after steps -/

open MemoryStep (opened isOut appended released latest)

theorem Path.same_iff_order {path p : String} : same path p = true ↔ order path p = .eq := by
  rw [same, decide_eq_true_eq, order_eq_iff]

theorem MemoryStore.openSink_eq (store : MemoryStore) (path : String) :
    (store.accepts path = true ∧ store.openSink path = .opened ⟨path, ""⟩) ∨
      (store.accepts path = false ∧ ∀ k, store.openSink path ≠ .opened k) := by
  rw [accepts, openSink]
  cases store.declined.any (Path.same path) <;> cases store.unavailable.any (Path.same path) <;>
    simp

namespace MemorySession

variable {accepts : String → Bool} {past : List MemoryStep} {s : MemorySession}

theorem take_ask_opened {path : String} (h : s.store.openSink path = .opened ⟨path, ""⟩) :
    s.take (.ask path) = ⟨s.store, s.sinks ++ [some ⟨path, ""⟩]⟩ := by
  have hrun : (MemoryStore.provider.openSink path).run s.store = (.opened ⟨path, ""⟩, s.store) :=
    congrArg (·, s.store) h
  rw [take, hrun]

theorem take_ask_refused {path : String} (h : ∀ k, s.store.openSink path ≠ .opened k) :
    s.take (.ask path) = s := by
  have hrun : (MemoryStore.provider.openSink path).run s.store =
      (s.store.openSink path, s.store) := rfl
  rw [take, hrun]
  split
  · next k store hopened => exact absurd (Prod.mk.inj hopened).1 (h k)
  · next answer store hnone hrefused => rw [← (Prod.mk.inj hrefused).2]

theorem take_turn_out {i : Nat} {k : MemorySink} (h : s.sinks[i]? = some (some k))
    (step : SinkStep) : s.take (.turn i step) =
      ⟨if step.isRelease then s.store.release k else s.store,
        s.sinks.set i (if step.letsGo then none else some (k.append step.text))⟩ := by
  rw [take, h]
  simp only [SinkStep.run_performInMemory]

theorem take_turn_gone {i : Nat} (h : ∀ k, s.sinks[i]? ≠ some (some k)) (step : SinkStep) :
    s.take (.turn i step) = s := by
  rw [take]
  split
  · next k hk => exact absurd hk (h k)
  · rfl

/-- What is found in a store, and in the sinks that are still out, after some steps. -/
structure Tracks (accepts : String → Bool) (past : List MemoryStep) (s : MemorySession) :
    Prop where
  accepting : s.store.accepts = accepts
  sinks : ∀ i, s.sinks[i]? = (opened accepts past)[i]?.map fun path =>
    if isOut accepts past i then some ⟨path, appended accepts past i⟩ else none
  found : ∀ path, s.store.get? path = (latest accepts past path).map (appended accepts past)
  ascending : Table.Ascending Path.order s.store.artifacts

namespace Tracks

theorem length_sinks (h : Tracks accepts past s) :
    s.sinks.length = (opened accepts past).length := by
  have hend (i : Nat) : s.sinks.length ≤ i ↔ (opened accepts past).length ≤ i := by
    rw [← List.getElem?_eq_none_iff, h.sinks, Option.map_eq_none_iff, List.getElem?_eq_none_iff]
  exact Nat.le_antisymm ((hend _).2 (Nat.le_refl _)) ((hend _).1 (Nat.le_refl _))

/-- A sink that is opened comes after the others, which stay as they are. -/
theorem sinks_ask (h : Tracks accepts past s) {path : String} (haccepts : accepts path = true)
    (i : Nat) : (s.sinks ++ [some ⟨path, ""⟩])[i]? =
      (opened accepts past ++ [path])[i]?.map fun other =>
        if isOut accepts (.ask path :: past) i then some ⟨other, appended accepts past i⟩
        else none := by
  have hlength := h.length_sinks
  rcases Nat.lt_trichotomy i (opened accepts past).length with hi | rfl | hi
  · have hi' : i < s.sinks.length := by omega
    rw [MemoryStep.isOut_ask hi, List.getElem?_append_left hi', List.getElem?_append_left hi,
      h.sinks]
  · -- the new sink, which nothing has been appended to
    have hout : isOut accepts (.ask path :: past) (opened accepts past).length = true := by
      rw [isOut, haccepts, BEq.rfl, Bool.and_self, Bool.true_or]
    have hempty := MemoryStep.appended_of_le (Nat.le_refl (opened accepts past).length)
    rw [List.getElem?_concat_length, hout, hempty, ← hlength, List.getElem?_concat_length]
    rfl
  · have hnone {α : Type} {xs : List α} (x : α) (hxs : xs.length < i) :
        (xs ++ [x])[i]? = none := by
      rw [List.getElem?_eq_none_iff, List.length_append, List.length_singleton]
      omega
    rw [hnone _ hi, hnone _ (hlength ▸ hi)]
    rfl

theorem ask (h : Tracks accepts past s) (path : String) :
    Tracks accepts (.ask path :: past) (s.take (.ask path)) := by
  have hfound (other : String) : s.store.get? other =
      (latest accepts (.ask path :: past) other).map (appended accepts (.ask path :: past)) := by
    rw [MemoryStep.latest_ask, MemoryStep.map_appended_latest, h.found]
  rcases s.store.openSink_eq path with ⟨haccepts, hopen⟩ | ⟨hrefuses, hopen⟩
  · rw [h.accepting] at haccepts
    have hopened : opened accepts (.ask path :: past) = opened accepts past ++ [path] :=
      if_pos haccepts
    rw [take_ask_opened hopen]
    refine ⟨h.accepting, fun i => ?_, hfound, h.ascending⟩
    rw [hopened]
    exact h.sinks_ask haccepts i
  · rw [h.accepting] at hrefuses
    have hopened : opened accepts (.ask path :: past) = opened accepts past :=
      if_neg (by rw [hrefuses]; exact Bool.false_ne_true)
    have hout : isOut accepts (.ask path :: past) = isOut accepts past := by
      funext i
      rw [isOut, hrefuses, Bool.false_and, Bool.false_or]
    rw [take_ask_refused hopen]
    refine ⟨h.accepting, fun i => ?_, hfound, h.ascending⟩
    rw [hopened, hout]
    exact h.sinks i

section

variable {i : Nat} {p : String} (h : Tracks accepts past s)
  (hp : (opened accepts past)[i]? = some p) (hout : isOut accepts past i = true) (step : SinkStep)

include h hp hout

/-- A step with a sink that is out is seen in this sink and in no other. -/
theorem sinks_turn (j : Nat) :
    (s.sinks.set i (if step.letsGo then none
      else some ((⟨p, appended accepts past i⟩ : MemorySink).append step.text)))[j]? =
    (opened accepts (.turn i step :: past))[j]?.map fun path =>
      if isOut accepts (.turn i step :: past) j then
        some ⟨path, appended accepts (.turn i step :: past) j⟩
      else none := by
  rw [opened, isOut, appended]
  by_cases hj : j = i
  · subst hj
    have hlt : j < s.sinks.length := h.length_sinks ▸ MemoryStep.lt_of_isOut hout
    rw [List.getElem?_set_self hlt, hp, hout, BEq.rfl]
    cases step.letsGo <;> rfl
  · have hne : (j == i) = false := beq_false_of_ne hj
    rw [List.getElem?_set_ne (Ne.symm hj), hne, h.sinks]
    simp

/-- When a sink is released, what has been appended to it is found under its path. -/
theorem found_turn (path : String) :
    (if step.isRelease then s.store.release ⟨p, appended accepts past i⟩ else s.store).get? path =
      (latest accepts (.turn i step :: past) path).map
        (appended accepts (.turn i step :: past)) := by
  have hkept : s.store.get? path =
      (latest accepts past path).map (appended accepts (.turn i step :: past)) := by
    rw [MemoryStep.map_appended_latest, h.found]
  rw [MemoryStep.latest_turn hp hout]
  cases hrelease : step.isRelease with
  | false => exact hkept
  | true =>
    cases SinkStep.isRelease_iff.1 hrelease
    have hnothing : SinkStep.text .release = "" := rfl
    have hlast : appended accepts (.turn i .release :: past) i = appended accepts past i := by
      rw [appended, hnothing, String.append_empty, ite_self]
    rw [if_pos rfl, MemoryStore.get?_release, Bool.true_and]
    by_cases hsame : Path.same path p = true
    · rw [if_pos (Path.same_iff_order.1 hsame), if_pos hsame, Option.map_some, hlast]
    · rw [if_neg (mt Path.same_iff_order.2 hsame), if_neg hsame, hkept]

end

theorem turn (h : Tracks accepts past s) (i : Nat) (step : SinkStep) :
    Tracks accepts (.turn i step :: past) (s.take (.turn i step)) := by
  -- a sink that is not out is not in the session either
  cases hout : isOut accepts past i with
  | false =>
    obtain ⟨hsame, happended, hlatest⟩ := MemoryStep.turn_of_not_out hout step
    have hgone (k : MemorySink) : s.sinks[i]? ≠ some (some k) := by
      rw [h.sinks, hout]
      simp
    rw [take_turn_gone hgone]
    refine ⟨h.accepting, fun j => ?_, fun path => ?_, h.ascending⟩
    · rw [hsame, happended, h.sinks]
      rfl
    · rw [hlatest, happended, h.found]
  | true =>
    obtain ⟨p, hp⟩ : ∃ p, (opened accepts past)[i]? = some p :=
      ⟨_, List.getElem?_eq_getElem (MemoryStep.lt_of_isOut hout)⟩
    have hsink : s.sinks[i]? = some (some ⟨p, appended accepts past i⟩) := by
      rw [h.sinks, hp, hout]
      rfl
    rw [take_turn_out hsink]
    refine ⟨?_, h.sinks_turn hp hout step, h.found_turn hp hout step, ?_⟩
    · cases step.isRelease with
      | false => exact h.accepting
      | true => exact h.accepting
    · cases step.isRelease with
      | false => exact h.ascending
      | true => exact Table.ascending_insert _ _ h.ascending

/-- Each step is tracked, so any number of them is. -/
theorem takeAll (h : Tracks accepts past s) (steps : List MemoryStep) :
    Tracks accepts (steps.reverse ++ past) (s.takeAll steps) := by
  -- the steps that have been taken grow by one each time
  induction steps generalizing past s with
  | nil => exact h
  | cons step steps ih =>
    rw [List.reverse_cons, List.append_assoc]
    cases step with
    | ask path => exact ih (h.ask path)
    | turn i step => exact ih (h.turn i step)

end Tracks

/-- The session with an empty store, which declines some paths and fails on others. -/
def start (declined unavailable : List String) : MemorySession :=
  ⟨.refusing declined unavailable, []⟩

theorem tracks_start (declined unavailable : List String) (steps : List MemoryStep) :
    Tracks (MemoryStore.refusing declined unavailable).accepts steps.reverse
      ((start declined unavailable).takeAll steps) := by
  have hstart : Tracks (MemoryStore.refusing declined unavailable).accepts []
      (start declined unavailable) := ⟨rfl, fun _ => rfl, fun _ => rfl, Table.ascending_nil⟩
  rw [← List.append_nil steps.reverse]
  exact hstart.takeAll steps

theorem store_take {step : MemoryStep} (h : ∀ i, step ≠ .turn i .release) :
    (s.take step).store = s.store := by
  cases step with
  | ask path =>
    rcases s.store.openSink_eq path with ⟨-, hopen⟩ | ⟨-, hopen⟩
    · rw [take_ask_opened hopen]
    · rw [take_ask_refused hopen]
  | turn i step =>
    rw [take]
    split
    · have hkeeps : step.isRelease = false := by
        rw [Bool.eq_false_iff, Ne, SinkStep.isRelease_iff]
        rintro rfl
        exact h i rfl
      simp only [SinkStep.run_performInMemory, hkeeps]
      rfl
    · rfl

theorem sinks_take {i j : Nat} (h : j ≠ i) (step : SinkStep) :
    (s.take (.turn i step)).sinks[j]? = s.sinks[j]? := by
  rw [take]
  split
  · exact List.getElem?_set_ne (Ne.symm h)
  · rfl

/-- Whatever is done with the sinks of a store, in any order, what is found under a path is all that
has been appended to the sink released last among those for an equal path. No other sink shows in
the store, one that is dropped never will, only a release changes it, and a step with one sink does
not concern the others. Paths stay in ascending order. -/
theorem last_release_wins (declined unavailable : List String) (steps : List MemoryStep) :
    let accepts := (MemoryStore.refusing declined unavailable).accepts
    let past := steps.reverse
    let s := (start declined unavailable).takeAll steps
    (∀ path, s.store.get? path = (latest accepts past path).map (appended accepts past)) ∧
    (∀ e ∈ s.store.artifacts, ∃ i ∈ released accepts past,
      latest accepts past e.1 = some i ∧ e.2 = appended accepts past i) ∧
    (∀ earlier i later, steps = earlier ++ .turn i .drop :: later →
      isOut accepts earlier.reverse i = true → i ∉ released accepts past) ∧
    (∀ step, (∀ i, step ≠ .turn i .release) → (s.take step).store = s.store) ∧
    (∀ i j step, j ≠ i → (s.take (.turn i step)).sinks[j]? = s.sinks[j]?) ∧
    Table.Ascending Path.order s.store.artifacts := by
  intro accepts past s
  have htracks : Tracks accepts past s := tracks_start declined unavailable steps
  refine ⟨htracks.found, ?_, ?_, fun step => store_take, fun i j step h => sinks_take h step,
    htracks.ascending⟩
  · rintro ⟨path, text⟩ he
    have hget : s.store.get? path = some text :=
      (Table.find?_eq_some_iff htracks.ascending).2 ⟨path, Std.ReflCmp.compare_self, he⟩
    rw [htracks.found] at hget
    obtain ⟨i, hi, rfl⟩ := Option.map_eq_some_iff.1 hget
    exact ⟨i, MemoryStep.mem_released_of_latest hi, hi, rfl⟩
  · rintro earlier i later rfl hout
    have hpast : past = later.reverse ++ .turn i .drop :: earlier.reverse := by
      simp [past]
    rw [hpast]
    have hlt : i < (opened accepts (.turn i .drop :: earlier.reverse)).length := by
      rw [opened]
      exact MemoryStep.lt_of_isOut hout
    have hgone : isOut accepts (.turn i .drop :: earlier.reverse) i = false := by
      rw [isOut, BEq.rfl, SinkStep.letsGo, Bool.and_self, Bool.not_true, Bool.and_false]
    have hkept : released accepts (.turn i .drop :: earlier.reverse) =
        released accepts earlier.reverse := by
      have hdrop : SinkStep.isRelease .drop = false := rfl
      rw [released, hdrop, Bool.and_false, if_neg Bool.false_ne_true]
    apply MemoryStep.not_released_of_gone hlt hgone
    rw [hkept]
    intro hmem
    rw [(MemoryStep.gone_of_mem_released hmem).2] at hout
    cases hout

/-- Two sinks for one path in two spellings, of which the one that was opened first is released
last. -/
theorem last_release_wins_twice :
    let early : List MemoryStep := [.ask "a/b", .ask "a//b", .turn 1 (.append "x"),
      .turn 0 (.append "y"), .turn 1 .release]
    let late : List MemoryStep := [.turn 0 (.append "z"), .turn 0 .release]
    ((start [] []).takeAll early).store.get? "a/b" = some "x" ∧
      ((start [] []).takeAll (early ++ late)).store.get? "a/b" = some "yz" := by
  intro early late
  constructor
  · rw [(last_release_wins [] [] early).1]
    decide +kernel
  · rw [(last_release_wins [] [] (early ++ late)).1]
    decide +kernel

end MemorySession

end Scaffold
