import Lanewise.Proofs.Resolver.Choice
import Lanewise.Proofs.Text.Utf8
import Lanewise.Resolver
import Mathlib.Data.Finset.Dedup

namespace Lanewise

namespace Preference

-- What a build takes from the variable, and what it reports. A value is well formed if it is the
-- encoding of a text.
inductive Reads : Build → Option (List UInt8) → Preference → List Event → Prop where
  | ignored (value : Option (List UInt8)) : Reads .scalarOnly value .disabled []
  | unset {build : Build} (h : build ≠ .scalarOnly) : Reads build none .auto []
  | word {build : Build} {text : List Char} {preference : Preference} (h : build ≠ .scalarOnly)
    (hparse : parse text = .ok preference) :
    Reads build (some (Text.Utf8.encode text)) preference []
  | unknown {build : Build} {text : List Char} {unknown : UnknownPreference}
    (h : build ≠ .scalarOnly) (hparse : parse text = .error unknown) :
    Reads build (some (Text.Utf8.encode text)) .auto [.ignored (.unknown unknown)]
  | illFormed {build : Build} {bytes : List UInt8} (h : build ≠ .scalarOnly)
    (hbytes : ∀ text, bytes ≠ Text.Utf8.encode text) :
    Reads build (some bytes) .auto [.ignored (.notUtf8 bytes)]

theorem ofBytes_encode (text : List Char) :
    ofBytes (Text.Utf8.encode text) =
      match parse text with
      | .ok preference => .ok preference
      | .error unknown => .error (.unknown unknown) := by
  have hdecode : Text.Utf8.decode? (Text.Utf8.encode text) = some text :=
    Text.Utf8.decode?_eq_some_iff.mpr rfl
  cases hparse : parse text with
  | ok preference => simp [ofBytes, hdecode, hparse]
  | error unknown => simp [ofBytes, hdecode, hparse]

theorem ofBytes_illFormed {bytes : List UInt8} (h : ∀ text, bytes ≠ Text.Utf8.encode text) :
    ofBytes bytes = .error (.notUtf8 bytes) := by
  have hnone : Text.Utf8.decode? bytes = none := by
    rw [Option.eq_none_iff_forall_ne_some]
    intro text htext
    exact h text (Text.Utf8.decode?_eq_some_iff.mp htext)
  rw [ofBytes, hnone]

theorem Reads.ofEnvironment_eq {build : Build} {value : Option (List UInt8)}
    {preference : Preference} {events : List Event} (h : Reads build value preference events) :
    ofEnvironment build value = (preference, events) := by
  have hreads {build : Build} (h : build ≠ .scalarOnly) : build.forcesScalar = false := by
    cases build with
    | scalarOnly => exact absurd rfl h
    | unchecked | checked => rfl
  cases h with
  | ignored value => rfl
  | unset h => simp [ofEnvironment, hreads h]
  | word h hparse => simp [ofEnvironment, hreads h, ofBytes_encode, hparse]
  | unknown h hparse => simp [ofEnvironment, hreads h, ofBytes_encode, hparse]
  | illFormed h hbytes => simp [ofEnvironment, hreads h, ofBytes_illFormed hbytes]

theorem exists_reads (build : Build) (value : Option (List UInt8)) :
    ∃ preference events, Reads build value preference events := by
  by_cases hbuild : build = .scalarOnly
  · subst hbuild
    exact ⟨_, _, .ignored value⟩
  · cases value with
    | none => exact ⟨_, _, .unset hbuild⟩
    | some bytes =>
      by_cases htext : ∃ text, bytes = Text.Utf8.encode text
      · obtain ⟨text, rfl⟩ := htext
        cases hparse : parse text with
        | ok preference => exact ⟨_, _, .word hbuild hparse⟩
        | error unknown => exact ⟨_, _, .unknown hbuild hparse⟩
      · exact ⟨_, _, .illFormed hbuild (not_exists.mp htext)⟩

theorem ofEnvironment_eq_iff_reads {build : Build} {value : Option (List UInt8)}
    {preference : Preference} {events : List Event} :
    ofEnvironment build value = (preference, events) ↔ Reads build value preference events := by
  constructor
  · intro h
    obtain ⟨found, reported, hreads⟩ := exists_reads build value
    cases hreads.ofEnvironment_eq.symm.trans h
    exact hreads
  · exact Reads.ofEnvironment_eq

theorem Reads.events_eq_nil_or_warn {build : Build} {value : Option (List UInt8)}
    {preference : Preference} {events : List Event} (h : Reads build value preference events) :
    events = [] ∨ events.map Event.level = [.warn] := by
  cases h with
  | ignored | unset | word => exact .inl rfl
  | unknown | illFormed => exact .inr rfl

-- The facility that a preference comes to on a host that reports some facilities: the first one of
-- a fixed order that there is code for, or the forced one if there is code for it.
def among (reported : Finset Facility) : Preference → Facility
  | .auto =>
    ([Facility.sse2, .neon, .threeDNow, .altiVec].find? fun facility =>
      facility.hasCode && decide (facility ∈ reported)).getD .scalar
  | .disabled => .scalar
  | .force facility => if facility.hasCode ∧ facility ∈ reported then facility else .scalar

-- What is reported of a choice, and how loudly: a warning stands before the rest where a forced
-- facility is not the one that was chosen.
def trace (chosen : Facility) (preference : Preference) : List (Level × Event) :=
  let resolved := (Level.debug, Event.resolved preference chosen)
  match preference with
  | .auto | .disabled => [resolved]
  | .force facility =>
    if chosen = facility then [resolved] else [(.warn, .unavailable facility), resolved]

end Preference

namespace Resolver

theorem choice_ofReports (preference : Preference) (reported : List Facility) :
    (Resolver.mk preference (Host.ofReports reported)).choice =
      preference.among reported.toFinset := by
  cases preference with
  | auto => simp [choice, Preference.among, Host.best_ofReports]
  | disabled => rfl
  | force facility =>
    cases hvector : facility.isVector with
    | true => simp [choice, Preference.among, Host.canRun_ofReports hvector]
    | false =>
      cases facility with
      | unresolved | scalar => simp [choice, Preference.among, Facility.hasCode]
      | sse2 | threeDNow | altiVec | neon => exact absurd hvector (by decide)

theorem choice_force_eq_iff {facility : Facility} {host : Host} :
    (Resolver.mk (.force facility) host).choice = facility ↔ host.canRun facility = true := by
  constructor
  · intro h
    have hruns := canRun_choice ⟨.force facility, host⟩
    rwa [h] at hruns
  · intro h
    simp [choice, h]

theorem map_level_events (resolver : Resolver) :
    (resolver.events.map fun event => (event.level, event)) =
      resolver.preference.trace resolver.choice := by
  obtain ⟨preference, host⟩ := resolver
  cases preference with
  | auto | disabled => rfl
  | force facility =>
    by_cases hruns : host.canRun facility = true
    · have hchoice := choice_force_eq_iff.mpr hruns
      simp [events, warnings, hruns, Preference.trace, hchoice, Event.level]
    · have hchoice := mt choice_force_eq_iff.mp hruns
      simp [events, warnings, hruns, Preference.trace, hchoice, Event.level]

-- From the bytes of the variable and the reports of a host to the chosen facility, with all that is
-- reported on the way. Neither the order of the reports nor a repeated one matters.
theorem choice_events_ofEnvironment (build : Build) (value : Option (List UInt8))
    (reported : List Facility) :
    let read := Preference.ofEnvironment build value
    let resolver : Resolver := ⟨read.1, Host.ofReports reported⟩
    (∀ preference events, read = (preference, events) ↔
        Preference.Reads build value preference events) ∧
      (read.2 = [] ∨ read.2.map Event.level = [.warn]) ∧
      resolver.choice = read.1.among reported.toFinset ∧
      (resolver.events.map fun event => (event.level, event)) =
        read.1.trace resolver.choice := by
  intro read resolver
  have hreads : Preference.Reads build value read.1 read.2 :=
    Preference.ofEnvironment_eq_iff_reads.mp rfl
  exact ⟨fun _ _ => Preference.ofEnvironment_eq_iff_reads, hreads.events_eq_nil_or_warn,
    choice_ofReports read.1 reported, map_level_events resolver⟩

end Resolver

end Lanewise
