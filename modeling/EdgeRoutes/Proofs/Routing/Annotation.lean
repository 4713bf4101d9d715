import EdgeRoutes.Proofs.Duration.Seconds
import EdgeRoutes.Routing.Factory

namespace EdgeRoutes

open Duration (secondsText tinyText)
open Numeral (digits padded trimZeros)

namespace Duration

theorem secondsText_negative (number : List Char) :
    secondsText true number = "-" ++ secondsText false number := by
  have hsign : "-" = String.ofList ['-'] := rfl
  rw [secondsText, secondsText, hsign, ← String.ofList_append]
  rfl

theorem annotation_negative (d : Duration) :
    annotation { d with negative := true } = "-" ++ annotation { d with negative := false } := by
  rw [annotation_eq, annotation_eq]
  exact secondsText_negative _

end Duration

namespace Routing

theorem defaultTimeout_ofConfiguration {c : Configuration}
    (h : c.defaultTimeoutSeconds.toNat ≤ 2 ^ 53) :
    (Factory.ofConfiguration c).defaultTimeout =
      secondsText false (digits c.defaultTimeoutSeconds.toNat) :=
  c.defaultTimeout.annotation_whole rfl h

/-- The annotations that are exact: of whole seconds up to `2 ^ 53`, and of fractions of a second,
which are in exponent form below `0.0001`. A negative duration has a sign in front of the same text.
The default timeout of a configuration is of whole seconds. -/
theorem annotation_exact (d : Duration) :
    (d.nanos = 0 → d.seconds ≤ 2 ^ 53 → d.annotation = secondsText d.negative (digits d.seconds)) ∧
    (d.seconds = 0 → 100000 ≤ d.nanos →
      d.annotation = secondsText d.negative ('0' :: '.' :: trimZeros (padded 9 d.nanos))) ∧
    (d.seconds = 0 → 0 < d.nanos → d.nanos < 100000 →
      d.annotation = secondsText d.negative (tinyText d.nanos)) ∧
    Duration.annotation { d with negative := true } =
      "-" ++ Duration.annotation { d with negative := false } ∧
    ∀ c : Configuration, c.defaultTimeoutSeconds.toNat ≤ 2 ^ 53 →
      (Factory.ofConfiguration c).defaultTimeout =
        secondsText false (digits c.defaultTimeoutSeconds.toNat) :=
  ⟨d.annotation_whole, Duration.annotation_fraction, Duration.annotation_tiny,
    d.annotation_negative, fun _ => defaultTimeout_ofConfiguration⟩

theorem annotation_usualTimeout :
    let c : Configuration := ⟨"edge", none, Configuration.usualTimeoutSeconds⟩
    let quarter : Duration := ⟨false, 0, 250000000, by decide, by decide⟩
    let brief : Duration := ⟨true, 0, 15000, by decide, by decide⟩
    (c.defaultTimeout.nanos = 0 ∧ c.defaultTimeout.seconds ≤ 2 ^ 53 ∧
      c.defaultTimeout.annotation = "600s") ∧
    (quarter.seconds = 0 ∧ 100000 ≤ quarter.nanos ∧ quarter.annotation = "0.25s") ∧
    (brief.seconds = 0 ∧ 0 < brief.nanos ∧ brief.nanos < 100000 ∧ brief.annotation = "-1.5e-05s") ∧
    c.defaultTimeoutSeconds.toNat ≤ 2 ^ 53 ∧
    (Factory.ofConfiguration c).defaultTimeout = "600s" := by
  intro c quarter brief
  have hseconds : c.defaultTimeout.seconds ≤ 2 ^ 53 := by decide
  have hbound : c.defaultTimeoutSeconds.toNat ≤ 2 ^ 53 := by decide
  have hquarter : 100000 ≤ quarter.nanos := by decide
  have hpos : 0 < brief.nanos := by decide
  have hbrief : brief.nanos < 100000 := by decide
  have hsix : secondsText false (digits 600) = "600s" := by decide +kernel
  have hdecimal : secondsText false ('0' :: '.' :: trimZeros (padded 9 250000000)) = "0.25s" := by
    decide +kernel
  have hexponent : secondsText true (tinyText 15000) = "-1.5e-05s" := by decide +kernel
  obtain ⟨hwhole, -, -, -, hdefault⟩ := annotation_exact c.defaultTimeout
  obtain ⟨-, hfraction, -⟩ := annotation_exact quarter
  obtain ⟨-, -, htiny, -⟩ := annotation_exact brief
  exact ⟨⟨rfl, hseconds, (hwhole rfl hseconds).trans hsix⟩,
    ⟨rfl, hquarter, (hfraction rfl hquarter).trans hdecimal⟩,
    ⟨rfl, hpos, hbrief, (htiny rfl hpos hbrief).trans hexponent⟩,
    hbound, (hdefault c hbound).trans hsix⟩

end Routing

end EdgeRoutes
