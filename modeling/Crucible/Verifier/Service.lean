import Crucible.Interfaces.Verifier

/-!
# The verification service (`crates/verifier/src/service.rs`, `report.rs`, `errors.rs`)

A service is a list of registrations, each under the backend its verifier names.  A request runs
through the registrations of its own backend, in order, until one fails to run.

* `VerificationService.loop_eq_none`   what a loop that reaches the end leaves behind;
* `verify_ok`                          a report has one result for each registration that serves
                                       the request, and there is one only if they all run;
* `allVerified_iff`, `disagrees_iff_any_all`, `verifyAll_rejected`   what the report then says;
* `run_congr`                          the registrations of other backends do not matter;
* `multi_verifier`                     the service over every sequence of registrations.
-/

namespace Crucible
open Checked

/-! ## verifiers and their reports -/

/-- an implementation of the `Verifier` trait -/
structure Verifier where
  backend : BackendId
  verify : Verifies

structure VerifierResult where
  label : String
  outcome : VerificationOutcome
deriving DecidableEq

def VerifierResult.verified (result : VerifierResult) : Bool := result.outcome.verified

structure VerificationReport where
  results : List VerifierResult
deriving DecidableEq

namespace VerificationReport
variable (report : VerificationReport)

def allVerified : Bool := !report.results.isEmpty && report.results.all VerifierResult.verified

def anyVerified : Bool := report.results.any VerifierResult.verified

def disagrees : Bool :=
  decide (report.results.length > 1) && report.anyVerified && !report.allVerified

def rejections : List (String × Option VerificationFailure) :=
  (report.results.filter fun result => !result.verified).map fun result =>
    (result.label, result.outcome.failure)

end VerificationReport

/-! ## the service -/

inductive VerifierServiceError where
  | unknownBackend (backend : String)
  | verifierFailed (label reason : String)
  | internal (reason : String)
deriving DecidableEq

structure VerifierRegistration where
  label : String
  verifier : Verifier

structure VerificationService where
  byBackend : List (BackendId × VerifierRegistration)

/-- how far the loop over the registrations has come -/
structure Progress where
  results : List VerifierResult
  ranAny : Bool
  /-- the registrations whose `verify` has been called; the source does not keep them -/
  called : List VerifierRegistration

def Progress.start : Progress := { results := [], ranAny := false, called := [] }

/-- the progress after the registrations have given the results -/
def Progress.extend (progress : Progress) (registrations : List VerifierRegistration)
    (results : List VerifierResult) : Progress where
  results := progress.results ++ results
  ranAny := progress.ranAny || !registrations.isEmpty
  called := progress.called ++ registrations

theorem Progress.extend_nil (progress : Progress) : progress.extend [] [] = progress := by
  simp [extend]

theorem Progress.extend_cons {progress : Progress} {registration : VerifierRegistration}
    {registrations : List VerifierRegistration} {result : VerifierResult}
    {results : List VerifierResult} :
    Progress.extend { results := progress.results ++ [result]
                      ranAny := true
                      called := progress.called ++ [registration] } registrations results
      = progress.extend (registration :: registrations) (result :: results) := by
  simp [extend]

namespace VerificationService

def new : VerificationService := ⟨[]⟩

def register (service : VerificationService) (registration : VerifierRegistration) :
    Except VerifierServiceError VerificationService :=
  .ok ⟨service.byBackend ++ [(registration.verifier.backend, registration)]⟩

/-- a sequence of registrations -/
def registerEach (service : VerificationService) (registrations : List VerifierRegistration) :
    Except VerifierServiceError VerificationService :=
  registrations.foldlM register service

/-- the loop of `verify`, and the failure that ends it early -/
def loop (r : VerificationRequest) :
    List (BackendId × VerifierRegistration) → Progress →
      Progress × Option (Fault VerifierServiceError)
  | [], progress => (progress, none)
  | (backend, registration) :: entries, progress =>
    if backend ≠ r.backend then loop r entries progress
    else match registration.verifier.verify r with
      | .error e =>
        ({ progress with ranAny := true, called := progress.called ++ [registration] },
          some (e.map fun e => .verifierFailed registration.label e.message))
      | .ok outcome =>
        loop r entries
          { results := progress.results ++ [{ label := registration.label, outcome }]
            ranAny := true
            called := progress.called ++ [registration] }

def run (service : VerificationService) (r : VerificationRequest) :
    Progress × Option (Fault VerifierServiceError) :=
  loop r service.byBackend .start

def verify (service : VerificationService) (r : VerificationRequest) :
    Except (Fault VerifierServiceError) VerificationReport :=
  match service.run r with
  | (_, some e) => .error e
  | (progress, none) =>
    if ¬ progress.ranAny then .error (.error (.unknownBackend r.backend.id))
    else .ok ⟨progress.results⟩

def verifyAll (service : VerificationService) (r : VerificationRequest) :
    Except (Fault VerifierServiceError) VerificationOutcome := do
  let report ← service.verify r
  if report.allVerified then return .positive
  else return .rejected (((report.rejections.head?).bind Prod.snd).getD .invalidProof)

end VerificationService

/-! ## one registration -/

namespace VerifierRegistration
variable (registration : VerifierRegistration) (r : VerificationRequest)

/-- the registration is for the backend of the request -/
def Serves : Prop := registration.verifier.backend = r.backend

instance : Decidable (registration.Serves r) := inferInstanceAs (Decidable (_ = _))

/-- its verifier answers the request with an outcome -/
def Runs : Prop := ∃ outcome, registration.verifier.verify r = .ok outcome

def Accepts : Prop := Verified registration.verifier.verify r

def Rejects : Prop :=
  ∃ outcome, registration.verifier.verify r = .ok outcome ∧ outcome.verified = false

/-- the result is what its verifier answers -/
def Reports (result : VerifierResult) : Prop :=
  registration.verifier.verify r = .ok result.outcome ∧ result.label = registration.label

end VerifierRegistration

section
variable {registration : VerifierRegistration} {r : VerificationRequest} {result : VerifierResult}

theorem VerifierRegistration.Reports.accepts_iff (h : registration.Reports r result) :
    registration.Accepts r ↔ result.verified := by
  obtain ⟨hrun, _⟩ := h
  refine ⟨fun h => ?_, fun hv => ?_⟩
  · obtain ⟨outcome, hrun', hv⟩ := h
    rw [hrun] at hrun'
    rw [VerifierResult.verified, Except.ok.inj hrun']
    exact hv
  · exact ⟨_, hrun, hv⟩

theorem VerifierRegistration.Reports.rejects_iff (h : registration.Reports r result) :
    registration.Rejects r ↔ result.verified = false := by
  obtain ⟨hrun, _⟩ := h
  refine ⟨fun h => ?_, fun hv => ?_⟩
  · obtain ⟨outcome, hrun', hv⟩ := h
    rw [hrun] at hrun'
    rw [VerifierResult.verified, Except.ok.inj hrun']
    exact hv
  · exact ⟨_, hrun, hv⟩

theorem VerifierRegistration.exists_reports (h : registration.Runs r) :
    ∃ result, registration.Reports r result := by
  obtain ⟨outcome, hrun⟩ := h
  exact ⟨{ label := registration.label, outcome }, hrun, rfl⟩

end

/-! ## what the loop does -/

namespace VerificationService
open VerifierRegistration
variable {service : VerificationService} {r : VerificationRequest}

/-- the registrations of a list that are for the backend of the request -/
def serving (r : VerificationRequest) (entries : List (BackendId × VerifierRegistration)) :
    List VerifierRegistration :=
  (entries.filter fun entry => entry.1 = r.backend).map Prod.snd

section
variable {backend : BackendId} {registration : VerifierRegistration}
  {entries : List (BackendId × VerifierRegistration)}

theorem serving_cons_of_ne (h : backend ≠ r.backend) :
    serving r ((backend, registration) :: entries) = serving r entries := by
  unfold serving
  rw [List.filter_cons_of_neg (by simpa using h)]

theorem serving_cons_of_eq (h : backend = r.backend) :
    serving r ((backend, registration) :: entries) = registration :: serving r entries := by
  unfold serving
  rw [List.filter_cons_of_pos (by simpa using h), List.map_cons]

/-- the loop runs the registrations that serve the request, and skips all others -/
theorem loop_serving {progress : Progress} : loop r entries progress
    = loop r ((serving r entries).map fun registration => (r.backend, registration)) progress := by
  induction entries generalizing progress with
  | nil => rfl
  | cons entry entries ih =>
    obtain ⟨backend, registration⟩ := entry
    by_cases hb : backend = r.backend
    · rw [serving_cons_of_eq hb, List.map_cons, loop, loop, if_neg (not_not.mpr hb),
        if_neg (not_not.mpr rfl)]
      cases registration.verifier.verify r with
      | error e => rfl
      | ok outcome => exact ih
    · rw [serving_cons_of_ne hb, loop, if_pos hb]
      exact ih

/-- a loop that reaches the end has run every registration that serves the request -/
theorem loop_eq_none {progress progress' : Progress} :
    loop r entries progress = (progress', none) ↔
      ∃ results, List.Forall₂ (fun registration result => registration.Reports r result)
          (serving r entries) results ∧
        progress' = progress.extend (serving r entries) results := by
  induction entries generalizing progress with
  | nil =>
    rw [loop, Prod.mk.injEq]
    refine ⟨fun h => ?_, fun h => ?_⟩
    · obtain ⟨h, _⟩ := h
      exact ⟨[], .nil, h.symm.trans progress.extend_nil.symm⟩
    · obtain ⟨results, hall, h⟩ := h
      obtain rfl := List.forall₂_nil_left_iff.mp hall
      exact ⟨(h.trans progress.extend_nil).symm, rfl⟩
  | cons entry entries ih =>
    obtain ⟨backend, registration⟩ := entry
    by_cases hb : backend = r.backend
    · rw [serving_cons_of_eq hb, loop, if_neg (not_not.mpr hb)]
      simp only [List.forall₂_cons_left_iff]
      cases hrun : registration.verifier.verify r with
      | error e =>
        refine iff_of_false (fun h => ?_) (fun ⟨_, ⟨result, _, hreport, _⟩, _⟩ => ?_)
        · cases congrArg Prod.snd h
        · have hrun' := hrun.symm.trans hreport.1
          cases hrun'
      | ok outcome =>
        show loop r entries _ = _ ↔ _
        rw [ih]
        refine ⟨fun h => ?_, fun h => ?_⟩
        · obtain ⟨results, hall, h⟩ := h
          exact ⟨_, ⟨{ label := registration.label, outcome }, results, ⟨hrun, rfl⟩, hall, rfl⟩,
            h.trans Progress.extend_cons⟩
        · obtain ⟨_, ⟨⟨label, outcome'⟩, results, ⟨hrun', hlabel⟩, hall, rfl⟩, h⟩ := h
          obtain rfl := Except.ok.inj (hrun.symm.trans hrun')
          obtain rfl : label = registration.label := hlabel
          exact ⟨results, hall, h.trans Progress.extend_cons.symm⟩
    · rw [serving_cons_of_ne hb, loop, if_pos hb]
      exact ih

/-- nothing is called but what serves the request -/
theorem called_of_loop {progress : Progress} {called : VerifierRegistration}
    (h : called ∈ (loop r entries progress).1.called) :
    called ∈ progress.called ∨ called ∈ serving r entries := by
  induction entries generalizing progress with
  | nil => exact .inl h
  | cons entry entries ih =>
    obtain ⟨backend, registration⟩ := entry
    by_cases hb : backend = r.backend
    · rw [serving_cons_of_eq hb, List.mem_cons]
      rw [loop, if_neg (not_not.mpr hb)] at h
      have hlast {cs : List VerifierRegistration} (hc : called ∈ cs ++ [registration]) :
          called ∈ cs ∨ called = registration := by
        rcases List.mem_append.mp hc with hc | hc
        · exact .inl hc
        · exact .inr (List.mem_singleton.mp hc)
      cases hrun : registration.verifier.verify r with
      | error e =>
        rw [hrun] at h
        rcases hlast h with hc | hc
        · exact .inl hc
        · exact .inr (.inl hc)
      | ok outcome =>
        rw [hrun] at h
        rcases ih h with hc | hc
        · rcases hlast hc with hc | hc
          · exact .inl hc
          · exact .inr (.inl hc)
        · exact .inr (.inr hc)
    · rw [serving_cons_of_ne hb]
      rw [loop, if_pos hb] at h
      exact ih h

end

/-! ## reports -/

/-- there is a report exactly when some registration serves the request and all of them run, and
it has one result for each, in order -/
theorem verify_ok {report : VerificationReport} : service.verify r = .ok report ↔
    serving r service.byBackend ≠ [] ∧
      List.Forall₂ (fun registration result => registration.Reports r result)
        (serving r service.byBackend) report.results := by
  refine ⟨fun h => ?_, fun h => ?_⟩
  · unfold verify at h
    split at h
    · cases h
    · next progress hrun =>
      obtain ⟨results, hall, rfl⟩ := loop_eq_none.mp hrun
      split at h
      · cases h
      · next hran =>
        obtain rfl := Except.ok.inj h
        refine ⟨fun hnil => hran ?_, hall⟩
        rw [hnil]
        intro hfalse
        cases hfalse
  · obtain ⟨hne, hall⟩ := h
    have hrun : service.run r
        = (Progress.start.extend (serving r service.byBackend) report.results, none) :=
      loop_eq_none.mpr ⟨_, hall, rfl⟩
    unfold verify
    rw [hrun]
    have hran : (!(serving r service.byBackend).isEmpty) = true := by
      simpa using hne
    exact if_neg (not_not.mpr hran)

section
variable {report : VerificationReport}

/-- every registration that serves the request has run -/
theorem runs_of_verify (h : service.verify r = .ok report) {registration : VerifierRegistration}
    (hmem : registration ∈ serving r service.byBackend) : registration.Runs r := by
  obtain ⟨result, _, hreport, _⟩ := exists_of_forall₂ (verify_ok.mp h).2 hmem
  exact ⟨_, hreport⟩

/-- where they all run, there is a report -/
theorem verify_of_runs (hne : serving r service.byBackend ≠ [])
    (h : ∀ registration ∈ serving r service.byBackend, registration.Runs r) :
    ∃ report, service.verify r = .ok report := by
  obtain ⟨results, hall⟩ := forall₂_of_exists fun registration hmem =>
    exists_reports (h registration hmem)
  exact ⟨⟨results⟩, verify_ok.mpr ⟨hne, hall⟩⟩

theorem anyVerified_iff (h : service.verify r = .ok report) :
    report.anyVerified ↔ ∃ registration ∈ serving r service.byBackend, registration.Accepts r := by
  have hall := (verify_ok.mp h).2
  rw [VerificationReport.anyVerified, List.any_eq_true]
  refine ⟨fun h => ?_, fun h => ?_⟩
  · obtain ⟨result, hmem, hv⟩ := h
    obtain ⟨registration, hreg, hreport⟩ := exists_of_forall₂ (.flip hall) hmem
    exact ⟨registration, hreg, (Reports.accepts_iff hreport).mpr hv⟩
  · obtain ⟨registration, hreg, haccepts⟩ := h
    obtain ⟨result, hmem, hreport⟩ := exists_of_forall₂ hall hreg
    exact ⟨result, hmem, (Reports.accepts_iff hreport).mp haccepts⟩

theorem allVerified_iff (h : service.verify r = .ok report) :
    report.allVerified ↔ ∀ registration ∈ serving r service.byBackend, registration.Accepts r := by
  obtain ⟨hne, hall⟩ := verify_ok.mp h
  have hresults : report.results.isEmpty = false := by
    rw [List.isEmpty_eq_false_iff]
    intro hnil
    rw [hnil] at hall
    exact hne (List.forall₂_nil_right_iff.mp hall)
  rw [VerificationReport.allVerified, hresults, Bool.not_false, Bool.true_and, List.all_eq_true]
  constructor
  · intro hv registration hreg
    obtain ⟨result, hmem, hreport⟩ := exists_of_forall₂ hall hreg
    exact (Reports.accepts_iff hreport).mpr (hv result hmem)
  · intro haccepts result hmem
    obtain ⟨registration, hreg, hreport⟩ := exists_of_forall₂ (.flip hall) hmem
    exact (Reports.accepts_iff hreport).mp (haccepts registration hreg)

end

/-- two results disagree when one accepts and not all do; one result cannot -/
theorem disagrees_iff_any_all {report : VerificationReport} :
    report.disagrees ↔ report.anyVerified ∧ ¬ report.allVerified := by
  obtain ⟨results⟩ := report
  rcases results with _ | ⟨first, _ | ⟨second, rest⟩⟩
  · simp [VerificationReport.disagrees, VerificationReport.anyVerified]
  · simp [VerificationReport.disagrees, VerificationReport.anyVerified,
      VerificationReport.allVerified]
  · simp [VerificationReport.disagrees]

/-! ## what the report says -/

/-- `verify_all` returns a verified outcome -/
def Unanimous (service : VerificationService) (r : VerificationRequest) : Prop :=
  ∃ outcome, service.verifyAll r = .ok outcome ∧ outcome.verified

/-- `verify` returns a report of a disagreement -/
def Disagreement (service : VerificationService) (r : VerificationRequest) : Prop :=
  ∃ report, service.verify r = .ok report ∧ report.disagrees

/-- all the registrations run, some reject, and those that do give one reason, or none -/
structure RejectedFor (registrations : List VerifierRegistration) (r : VerificationRequest)
    (failure : Option VerificationFailure) : Prop where
  runs : ∀ registration ∈ registrations, registration.Runs r
  rejects : ∃ registration ∈ registrations, registration.Rejects r
  reason : ∀ registration ∈ registrations, ∀ outcome,
    registration.verifier.verify r = .ok outcome → outcome.verified = false →
      outcome.failure = failure

theorem unanimous_iff : service.Unanimous r ↔ serving r service.byBackend ≠ [] ∧
    ∀ registration ∈ serving r service.byBackend, registration.Accepts r := by
  unfold Unanimous verifyAll
  refine ⟨fun h => ?_, fun h => ?_⟩
  · obtain ⟨outcome, h, hv⟩ := h
    obtain ⟨report, hreport, h⟩ := bind_ok.mp h
    refine ⟨(verify_ok.mp hreport).1, (allVerified_iff hreport).mp ?_⟩
    split at h
    · assumption
    · obtain rfl := pure_ok.mp h
      cases hv
  · obtain ⟨hne, haccepts⟩ := h
    obtain ⟨report, hreport⟩ := verify_of_runs hne fun registration hmem => by
      obtain ⟨outcome, hrun, _⟩ := haccepts registration hmem
      exact ⟨outcome, hrun⟩
    refine ⟨.positive, bind_ok.mpr ⟨report, hreport, ?_⟩, rfl⟩
    rw [if_pos ((allVerified_iff hreport).mpr haccepts)]
    rfl

theorem disagreement_iff : service.Disagreement r ↔
    (∀ registration ∈ serving r service.byBackend, registration.Runs r) ∧
    (∃ registration ∈ serving r service.byBackend, registration.Accepts r) ∧
    ∃ registration ∈ serving r service.byBackend, registration.Rejects r := by
  have hnot {registration : VerifierRegistration} (hruns : registration.Runs r) :
      ¬ registration.Accepts r ↔ registration.Rejects r := by
    obtain ⟨result, hreport⟩ := exists_reports hruns
    rw [hreport.accepts_iff, hreport.rejects_iff, Bool.not_eq_true]
  refine ⟨fun h => ?_, fun h => ?_⟩
  · obtain ⟨report, hreport, h⟩ := h
    obtain ⟨hany, hall⟩ := disagrees_iff_any_all.mp h
    rw [allVerified_iff hreport] at hall
    push Not at hall
    obtain ⟨registration, hmem, hrejects⟩ := hall
    have hruns : ∀ registration ∈ serving r service.byBackend, registration.Runs r :=
      fun _ hmem => runs_of_verify hreport hmem
    exact ⟨hruns, (anyVerified_iff hreport).mp hany, registration, hmem,
      (hnot (hruns _ hmem)).mp hrejects⟩
  · obtain ⟨hruns, haccepts, registration, hmem, hrejects⟩ := h
    obtain ⟨report, hreport⟩ := verify_of_runs (List.ne_nil_of_mem hmem) hruns
    refine ⟨report, hreport, disagrees_iff_any_all.mpr ⟨(anyVerified_iff hreport).mpr haccepts, ?_⟩⟩
    rw [allVerified_iff hreport]
    intro hall
    exact (hnot (hruns _ hmem)).mpr hrejects (hall _ hmem)

/-- the reason that all rejections give is the reason that is reported -/
theorem verifyAll_rejected {failure : Option VerificationFailure}
    (h : RejectedFor (serving r service.byBackend) r failure) :
    service.verifyAll r = .ok (.rejected (failure.getD .invalidProof)) := by
  obtain ⟨registration, hmem, hrejects⟩ := h.rejects
  obtain ⟨report, hreport⟩ := verify_of_runs (List.ne_nil_of_mem hmem) h.runs
  have hall := (verify_ok.mp hreport).2
  obtain ⟨result, hresult, hreports⟩ := exists_of_forall₂ hall hmem
  have hfalse : result.verified = false := hreports.rejects_iff.mp hrejects
  have hnotall : ¬ report.allVerified := by
    rw [allVerified_iff hreport]
    intro haccepts
    rw [hreports.accepts_iff.mp (haccepts _ hmem)] at hfalse
    cases hfalse
  have hhead : (report.rejections.head?).bind Prod.snd = failure := by
    cases hrejections : report.rejections with
    | nil =>
      have hmem' : (result.label, result.outcome.failure) ∈ report.rejections :=
        List.mem_map.mpr ⟨result, List.mem_filter.mpr ⟨hresult, by simp [hfalse]⟩, rfl⟩
      rw [hrejections] at hmem'
      exact absurd hmem' List.not_mem_nil
    | cons rejection rest =>
      have hmem' : rejection ∈ report.rejections := hrejections ▸ List.mem_cons_self
      obtain ⟨first, hfirst, rfl⟩ := List.mem_map.mp hmem'
      obtain ⟨hfirst, hv⟩ := List.mem_filter.mp hfirst
      obtain ⟨registration', hreg', hreports'⟩ := exists_of_forall₂ (.flip hall) hfirst
      exact h.reason _ hreg' _ hreports'.1 (by simpa [VerifierResult.verified] using hv)
  unfold verifyAll
  refine bind_ok.mpr ⟨report, hreport, ?_⟩
  rw [if_neg hnotall, hhead]
  rfl

/-! ## sequences of registrations -/

/-- the registrations, each under the backend of its verifier -/
def registered (registrations : List VerifierRegistration) : VerificationService :=
  ⟨registrations.map fun registration => (registration.verifier.backend, registration)⟩

/-- registering never fails, and keeps the order -/
theorem registerEach_new (registrations : List VerifierRegistration) :
    new.registerEach registrations = .ok (registered registrations) := by
  have hfrom (service : VerificationService) : service.registerEach registrations
      = .ok ⟨service.byBackend ++ (registered registrations).byBackend⟩ := by
    induction registrations generalizing service with
    | nil => rw [registered, List.map_nil, List.append_nil]; rfl
    | cons registration registrations ih =>
      show registerEach _ registrations = _
      rw [ih, List.append_assoc]
      rfl
  exact hfrom new

@[simp] theorem serving_registered (registrations : List VerifierRegistration) :
    serving r (registered registrations).byBackend
      = registrations.filter fun registration => registration.Serves r := by
  unfold serving registered
  rw [List.filter_map, List.map_map]
  exact List.map_id _

section
variable {registrations others : List VerifierRegistration}

/-- what holds of the registrations that serve the request does not see their order -/
theorem RejectedFor.perm {failure : Option VerificationFailure}
    (h : RejectedFor registrations r failure) (hperm : registrations.Perm others) :
    RejectedFor others r failure where
  runs registration hmem := h.runs registration (hperm.mem_iff.mpr hmem)
  rejects := by
    obtain ⟨registration, hmem, hrejects⟩ := h.rejects
    exact ⟨registration, hperm.mem_iff.mp hmem, hrejects⟩
  reason registration hmem := h.reason registration (hperm.mem_iff.mpr hmem)

end

variable {service' : VerificationService}

theorem unanimous_perm
    (h : (serving r service.byBackend).Perm (serving r service'.byBackend)) :
    service'.Unanimous r ↔ service.Unanimous r := by
  rw [unanimous_iff, unanimous_iff]
  refine and_congr (not_congr ?_) (forall_congr' fun _ => ?_)
  · exact ⟨fun hnil => (hnil ▸ h).eq_nil, fun hnil => (hnil ▸ h).symm.eq_nil⟩
  · rw [h.mem_iff]

theorem disagreement_perm
    (h : (serving r service.byBackend).Perm (serving r service'.byBackend)) :
    service'.Disagreement r ↔ service.Disagreement r := by
  simp only [disagreement_iff, h.mem_iff]

/-- two services with the same registrations for a backend answer its requests alike -/
theorem run_congr (h : serving r service.byBackend = serving r service'.byBackend) :
    service'.run r = service.run r := by
  unfold run
  rw [loop_serving, ← h, ← loop_serving]

/-- **The service over every sequence of registrations.**  A proof is verified by all exactly when
some registration serves its backend, and all that do run and accept; a disagreement is reported
exactly when all run, one accepts and one rejects; one reason for all rejections is the reason
reported; the order changes none of this; and what serves another backend is never called, and
changes nothing when it is left out or added. -/
theorem multi_verifier (registrations : List VerifierRegistration) (r : VerificationRequest) :
    ∃ service, new.registerEach registrations = .ok service ∧
      (service.Unanimous r ↔
        (∃ registration ∈ registrations, registration.Serves r) ∧
        ∀ registration ∈ registrations, registration.Serves r → registration.Accepts r) ∧
      (service.Disagreement r ↔
        (∀ registration ∈ registrations, registration.Serves r → registration.Runs r) ∧
        (∃ registration ∈ registrations, registration.Serves r ∧ registration.Accepts r) ∧
        ∃ registration ∈ registrations, registration.Serves r ∧ registration.Rejects r) ∧
      (∀ failure,
        RejectedFor (registrations.filter fun registration => registration.Serves r) r failure →
          service.verifyAll r = .ok (.rejected (failure.getD .invalidProof))) ∧
      (∀ registration ∈ (service.run r).1.called,
        registration ∈ registrations ∧ registration.Serves r) ∧
      ∀ others, ∃ service', new.registerEach others = .ok service' ∧
        (registrations.Perm others →
          (service'.Unanimous r ↔ service.Unanimous r) ∧
          (service'.Disagreement r ↔ service.Disagreement r) ∧
          ∀ failure,
            RejectedFor (registrations.filter fun registration => registration.Serves r) r failure →
              service'.verifyAll r = service.verifyAll r) ∧
        (registrations.filter (fun registration => registration.Serves r)
            = others.filter (fun registration => registration.Serves r) →
          service'.run r = service.run r ∧ service'.verify r = service.verify r ∧
          service'.verifyAll r = service.verifyAll r) := by
  refine ⟨_, registerEach_new registrations, ?_, ?_, ?_, ?_, fun others =>
    ⟨_, registerEach_new others, fun hperm => ⟨?_, ?_, ?_⟩, fun hsame => ?_⟩⟩
  · have hne {registrations : List VerifierRegistration} :
        registrations ≠ [] ↔ ∃ registration, registration ∈ registrations :=
      ⟨List.exists_mem_of_ne_nil _, fun ⟨_, hmem⟩ => List.ne_nil_of_mem hmem⟩
    rw [unanimous_iff, serving_registered, hne]
    simp only [List.mem_filter, decide_eq_true_eq, and_imp]
  · rw [disagreement_iff, serving_registered]
    simp only [List.mem_filter, decide_eq_true_eq, and_imp, and_assoc]
  · intro failure h
    exact verifyAll_rejected ((serving_registered registrations).symm ▸ h)
  · intro registration h
    rcases called_of_loop h with hnone | hmem
    · exact absurd hnone List.not_mem_nil
    · rw [serving_registered, List.mem_filter, decide_eq_true_eq] at hmem
      exact hmem
  · refine unanimous_perm ?_
    rw [serving_registered, serving_registered]
    exact hperm.filter _
  · refine disagreement_perm ?_
    rw [serving_registered, serving_registered]
    exact hperm.filter _
  · intro failure h
    have h' : RejectedFor (serving r (registered others).byBackend) r failure := by
      rw [serving_registered]
      exact h.perm (hperm.filter _)
    rw [verifyAll_rejected h', verifyAll_rejected ((serving_registered registrations).symm ▸ h)]
  · have hrun : (registered others).run r = (registered registrations).run r := by
      refine run_congr ?_
      rw [serving_registered, serving_registered, hsame]
    have hverify : (registered others).verify r = (registered registrations).verify r := by
      unfold verify
      rw [hrun]
    refine ⟨hrun, hverify, ?_⟩
    unfold verifyAll
    rw [hverify]

end VerificationService

end Crucible
