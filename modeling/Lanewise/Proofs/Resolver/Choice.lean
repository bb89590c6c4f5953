import Lanewise.Bindings
import Lanewise.Packer
import Lanewise.Resolver
import Mathlib.Data.List.Find

namespace Lanewise

namespace Host

theorem hasCode_of_canRun {host : Host} {facility : Facility} (h : host.canRun facility = true) :
    facility.hasCode = true := by
  simp only [canRun, Bool.and_eq_true] at h
  exact h.1

@[simp] theorem canRun_scalar (host : Host) : host.canRun .scalar = true :=
  rfl

@[simp] theorem canRun_unresolved (host : Host) : host.canRun .unresolved = false :=
  rfl

theorem canRun_best (host : Host) : host.canRun host.best = true := by
  rw [best]
  cases hfound : Facility.automaticOrder.find? host.canRun with
  | none => exact host.canRun_scalar
  | some facility => exact List.find?_some hfound

-- The host that reports the facilities of a list, one after the other.
def ofReports (reported : List Facility) : Host :=
  reported.foldl reporting bare

theorem foldl_reporting (reported : List Facility) (host : Host) :
    reported.foldl reporting host =
      ⟨host.sse2 || decide (.sse2 ∈ reported), host.neon || decide (.neon ∈ reported),
        host.threeDNow || decide (.threeDNow ∈ reported),
        host.altiVec || decide (.altiVec ∈ reported)⟩ := by
  induction reported generalizing host with
  | nil => simp
  | cons facility reported ih =>
    rw [List.foldl_cons, ih]
    cases facility <;> simp [reporting]

-- Neither the order of the reports nor a repeated one matters.
theorem ofReports_eq (reported : List Facility) :
    ofReports reported =
      ⟨decide (.sse2 ∈ reported), decide (.neon ∈ reported), decide (.threeDNow ∈ reported),
        decide (.altiVec ∈ reported)⟩ := by
  simp [ofReports, foldl_reporting, bare]

theorem canRun_ofReports {facility : Facility} (h : facility.isVector = true)
    (reported : List Facility) :
    (ofReports reported).canRun facility = (facility.hasCode && decide (facility ∈ reported)) := by
  rw [ofReports_eq]
  cases facility with
  | unresolved | scalar => exact absurd h (by decide)
  | sse2 | threeDNow | altiVec | neon => rfl

theorem best_ofReports (reported : List Facility) :
    (ofReports reported).best =
      ([Facility.sse2, .neon, .threeDNow, .altiVec].find? fun facility =>
        facility.hasCode && decide (facility ∈ reported)).getD .scalar := by
  have hvector : ∀ facility ∈ Facility.automaticOrder, facility.isVector = true := by decide
  rw [best]
  congr 1
  exact List.find?_congr fun facility hmem => canRun_ofReports (hvector facility hmem) reported

end Host

namespace Resolver

-- Whatever a user asks for, the facility that is chosen can run.
theorem canRun_choice (resolver : Resolver) : resolver.host.canRun resolver.choice = true := by
  rw [choice]
  cases resolver.preference with
  | auto => exact resolver.host.canRun_best
  | disabled => exact resolver.host.canRun_scalar
  | force facility =>
    by_cases h : resolver.host.canRun facility = true
    · simp [h]
    · simp [h]

theorem choice_ne_unresolved (resolver : Resolver) : resolver.choice ≠ .unresolved := by
  intro h
  have hruns := resolver.canRun_choice
  rw [h, Host.canRun_unresolved] at hruns
  exact absurd hruns (by decide)

end Resolver

-- The fallback to plain code is not taken where there is code for the facility.
theorem Bindings.facility_ofFacility {facility : Facility} (h : facility.hasCode = true) :
    (ofFacility facility).facility = facility := by
  cases facility with
  | unresolved | neon => exact absurd h (by decide)
  | scalar | sse2 | threeDNow | altiVec => rfl

theorem Packer.facility_ofFacility {facility : Facility} (h : facility.hasCode = true) :
    (ofFacility facility).facility = facility := by
  cases facility with
  | unresolved | neon => exact absurd h (by decide)
  | scalar | sse2 | threeDNow | altiVec => rfl

end Lanewise
