import GovernanceRelay.Proofs.Snapshot.Restoring
import GovernanceRelay.Settings

/-!
# A governance that begins as the settings say

Settings begin a governance with one admin and let that admin ask for mediators, calls and
entrypoints one after the other. All of it is granted, or no governance begins. So a governance that
begins is one in use, and whatever is asked of it, it is restored from its snapshot as it was
(`Settings.reached_run_of_seed`).
-/

set_option autoImplicit false

namespace GovernanceRelay

namespace Settings

open Governance

theorem reached_seedMediators {admin : Address} {governance done : Governance}
    (reached : governance.Reached) {seeds : List MediatorSeed}
    (h : seedMediators admin governance seeds = .ok done) : done.Reached := by
  induction seeds generalizing governance with
  | nil =>
    cases h
    exact reached
  | cons seed rest ih =>
    rw [seedMediators] at h
    split at h
    · cases h
    · rename_i previous changed hset
      have hanswer : governance.answer (.setMediator admin seed.chain seed.address) =
          .ok (.replaced previous, changed) := by
        rw [answer, hset]
        rfl
      exact ih (reached.of_answer hanswer) h

theorem reached_seedRoutes {admin : Address} {governance done : Governance}
    (reached : governance.Reached) {seeds : List RouteSeed}
    (h : seedRoutes admin governance seeds = .ok done) : done.Reached := by
  induction seeds generalizing governance with
  | nil =>
    cases h
    exact reached
  | cons seed rest ih =>
    rw [seedRoutes] at h
    split at h
    · cases h
    · rename_i changed hset
      have hanswer : governance.answer (.setRoute admin seed.entrypoint seed.destination) =
          .ok (.declared, changed) := by
        rw [answer, hset]
        rfl
      exact ih (reached.of_answer hanswer) h

theorem reached_seedPolicies {admin : Address} {governance done : Governance}
    (reached : governance.Reached) {entries : List PolicyEntry}
    (h : seedPolicies admin governance entries = .ok done) : done.Reached := by
  rw [seedPolicies] at h
  split at h
  · cases h
    exact reached
  · split at h
    · cases h
    · rename_i count changed hset
      have hanswer : governance.answer (.setPolicies admin entries) =
          .ok (.updated count, changed) := by
        rw [answer, hset]
        rfl
      cases h
      exact reached.of_answer hanswer

theorem reached_of_seed {settings : Settings} {governance : Governance}
    (begins : settings.seed = .ok governance) : governance.Reached := by
  rw [seed] at begins
  split at begins
  · cases begins
  rename_i mediated hmediators
  split at begins
  · cases begins
  split at begins
  · cases begins
  rename_i allowed hpolicies
  split at begins
  · cases begins
  rename_i routed hroutes
  cases begins
  have hmediated := reached_seedMediators (.created settings.admin) hmediators
  have hallowed := reached_seedPolicies hmediated hpolicies
  exact reached_seedRoutes hallowed hroutes

/-- A governance that begins as the settings say is in use, whatever is asked of it. -/
theorem reached_run_of_seed {settings : Settings} {governance : Governance}
    (begins : settings.seed = .ok governance) (requests : List GovernanceRequest) :
    (governance.run requests).Reached :=
  (reached_of_seed begins).run requests

end Settings

end GovernanceRelay
