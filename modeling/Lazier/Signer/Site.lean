import Lazier.Delivery.Agreement
import Lazier.Signer.Leases

/-!
# Workers and signers on one store

The delivery system lets the sending loops of a manager call the store freely,
and the fleet lets everybody but a signing session do so.  A site has both: its
signing calls come from offered sessions, its workflow calls from workers,
indexers and the receipts loop.  It runs as either of the two, so what holds of
both holds of a site.
-/

namespace Lazier.Signer

open Delivery Library Store Ledger Manager

structure Site where
  system : System
  signers : List Manager.Session

def Site.empty : Site := ⟨System.empty, []⟩

def Site.fleet (site : Site) : Fleet := ⟨site.system.db, site.signers⟩

inductive Act
  | deliver (label : Label)
  | sign (move : Move)

/-- A call of the delivery system that leaves the signing leases to the
signers. -/
def sparesLeases : Label → Bool
  | .call op => !(usesSigningLease op)
  | _ => true

/-- A move of a signing session. -/
def ofSession : Move → Bool
  | .call _ => false
  | _ => true

inductive SiteStep (deployment : Deployment) : Site → Act → Site → Prop
  | deliver {site : Site} {label : Label} {system : System}
      (step : SystemStep deployment site.system label system) (spares : sparesLeases label = true) :
      SiteStep deployment site (.deliver label) { site with system := system }
  | sign {site : Site} {move : Move} {fleet : Fleet}
      (step : OfferedStep site.fleet move fleet) (own : ofSession move = true) :
      SiteStep deployment site (.sign move) ⟨{ site.system with db := fleet.db }, fleet.sessions⟩

/-- Runs of any number of instances from the empty schema. -/
abbrev SiteRun (deployment : Deployment) := Run (SiteStep deployment) Site.empty

variable {deployment : Deployment} {pre post site : Site} {act : Act}

theorem background_claimCall (session : Manager.Session) (now : Time)
    (lane : Lane) (leaseTTL : Duration) :
    background (.tx (session.claimCall now lane leaseTTL)) = true := by
  cases htask : session.task <;> simp [Session.claimCall, htask, background, properCall]

theorem background_insertCall (session : Manager.Session) (now : Time) (signed : SignedAttempt) :
    background (.tx (session.insertCall now signed)) = true := by
  cases htask : session.task <;> simp [Session.insertCall, htask, background, properCall]

theorem systemStep_call {system : System} {op : Op} (hbackground : background op = true) :
    SystemStep deployment system (.call op) { system with db := op.apply system.db } :=
  if_pos hbackground

theorem systemRun_of_siteStep (hstep : SiteStep deployment pre act post) :
    ∃ events, Run (SystemStep deployment) pre.system events post.system := by
  cases hstep with
  | deliver step spares => exact ⟨_, Run.start.extend step⟩
  | sign step own =>
    obtain ⟨hfleet, -⟩ := step
    cases hfleet with
    | start fresh => exact ⟨[], .start⟩
    | @claim session now lane leaseTTL started =>
      exact ⟨_, Run.start.extend (systemStep_call (background_claimCall session now lane leaseTTL))⟩
    | @insert session now signed started =>
      exact ⟨_, Run.start.extend (systemStep_call (background_insertCall session now signed))⟩
    | call free => cases own

theorem systemRun_of_siteRun {history : List (Event Site Act)}
    (hrun : SiteRun deployment history site) :
    ∃ events, SystemRun deployment events site.system := by
  obtain ⟨events, hevents, -⟩ := hrun.simulate Site.system (fun _ _ => True)
    fun pre act post hstep => by
      obtain ⟨events, hevents⟩ := systemRun_of_siteStep hstep
      exact ⟨events, hevents, fun _ _ => trivial⟩
  exact ⟨events, hevents⟩

theorem usesSigningLease_of_calls {system : System} {label : Label} {op : Op}
    (hcalls : Calls deployment system label op)
    (hspares : sparesLeases label = true) : usesSigningLease op = false := by
  cases hcalls with
  | worker _ hcall => cases hcall <;> rfl
  | observed | pinned | marked | finalized => rfl
  | background => simpa [sparesLeases] using hspares

theorem offeredRun_of_siteStep (hstep : SiteStep deployment pre act post) :
    ∃ events, Run OfferedStep pre.fleet events post.fleet := by
  cases hstep with
  | @deliver _ system step spares =>
    rcases step_db step with hsame | ⟨op, hcalls, hdb⟩
    · have hfleet : (Site.mk system pre.signers).fleet = pre.fleet := by
        rw [Site.fleet, Site.fleet, hsame]
      rw [hfleet]
      exact ⟨[], .start⟩
    · have hcall : FleetStep pre.fleet (.call op) (Site.mk system pre.signers).fleet := by
        rw [Site.fleet, Site.fleet, hdb]
        exact .call (usesSigningLease_of_calls hcalls spares)
      exact ⟨_, Run.start.extend ⟨hcall, trivial⟩⟩
  | sign step own => exact ⟨_, Run.start.extend step⟩

theorem offeredRun_of_siteRun {history : List (Event Site Act)}
    (hrun : SiteRun deployment history site) : ∃ events, OfferedRun events site.fleet := by
  obtain ⟨events, hevents, -⟩ := hrun.simulate Site.fleet (fun _ _ => True)
    fun pre act post hstep => by
      obtain ⟨events, hevents⟩ := offeredRun_of_siteStep hstep
      exact ⟨events, hevents, fun _ _ => trivial⟩
  exact ⟨events, hevents⟩

/-! ## Performed passes -/

/-- A site on which no worker has started. -/
def Site.ofFleet (fleet : Fleet) : Site := ⟨⟨fleet.db, fun _ => .idle⟩, fleet.sessions⟩

/-- A pass of a signer, or a call that the delivery system makes too. -/
def Pass.onSite : Pass → Bool
  | .call op => background op
  | _ => true

theorem ofSession_or_call {fleet : Fleet} {pass : Pass} {move : Move}
    (hmove : pass.move fleet = some move) :
    ofSession move = true ∨ ∃ op, pass = .call op ∧ move = .call op := by
  unfold Pass.move at hmove
  split at hmove
  · obtain ⟨session, -, rfl⟩ := Option.map_eq_some_iff.mp hmove
    exact .inl rfl
  · obtain ⟨session, -, rfl⟩ := Option.map_eq_some_iff.mp hmove
    exact .inl rfl
  · rename_i op
    split at hmove
    · cases hmove
    · exact .inr ⟨op, rfl, (Option.some.inj hmove).symm⟩
  · split at hmove
    · cases hmove
    · split at hmove
      · cases hmove
        exact .inl rfl
      · cases hmove

theorem siteStep_of_pass (deployment : Deployment) {fleet : Fleet} {pass : Pass}
    {move : Move} (hmove : pass.move fleet = some move) (honSite : pass.onSite = true) :
    ∃ act, SiteStep deployment (.ofFleet fleet) act (.ofFleet (afterMove fleet move)) := by
  have hstep := offeredStep_of_move hmove
  rcases ofSession_or_call hmove with hown | ⟨op, rfl, rfl⟩
  · have hsign : SiteStep deployment (.ofFleet fleet) (.sign move)
        (.ofFleet (afterMove fleet move)) := .sign hstep hown
    exact ⟨_, hsign⟩
  · have hspares : sparesLeases (.call op) = true := by
      cases hstep.1 with
      | call free => simp [sparesLeases, free]
    have hdeliver : SiteStep deployment (.ofFleet fleet) (.deliver (.call op))
        (.ofFleet (afterMove fleet (.call op))) := .deliver (systemStep_call honSite) hspares
    exact ⟨_, hdeliver⟩

theorem siteRun_of_passes (deployment : Deployment) (passes : List Pass) (check : Fleet → Bool)
    (hperformed : (perform (fun fleet pass => (Pass.move fleet pass).map (afterMove fleet))
      (fun _ pass => pass.onSite) Fleet.empty passes.reverse).any check = true) :
    ∃ history site, SiteRun deployment history site ∧ check site.fleet = true := by
  obtain ⟨events, final, hrun, -, hallowed, hcheck⟩ := exists_run_of_perform hperformed
  refine Exists.elim ?_ fun history hsite =>
    ⟨history, .ofFleet final, hsite, hcheck⟩
  clear hcheck hperformed
  induction hrun with
  | start => exact ⟨[], .start⟩
  | extend before last ih =>
    obtain ⟨hlast, hbefore⟩ := List.forall_mem_cons.mp hallowed
    obtain ⟨history, hsite⟩ := ih hbefore
    obtain ⟨move, hmove, rfl⟩ := Option.map_eq_some_iff.mp last
    obtain ⟨act, hact⟩ := siteStep_of_pass deployment hmove hlast
    exact ⟨_, hsite.extend hact⟩

end Lazier.Signer
