import ImageTiers.FileTree
import ImageTiers.Main
import ImageTiers.Proofs.Policies
import ImageTiers.Proofs.Tiers
import ImageTiers.Proofs.Loading
import ImageTiers.Proofs.Renumbering
import ImageTiers.Proofs.WordSizes
import ImageTiers.Proofs.Reports
import ImageTiers.Proofs.ManifestOrder
import ImageTiers.Proofs.Outlines
import ImageTiers.Proofs.Settings
import ImageTiers.Proofs.Invocations
import ImageTiers.Proofs.TierInputs
import ImageTiers.Proofs.Growth
import ImageTiers.Proofs.Strictness
import ImageTiers.Proofs.ExitCodes
import ImageTiers.Proofs.FileTrees
import ImageTiers.Proofs.JsonTexts
import ImageTiers.Proofs.ReportForms
import ImageTiers.Proofs.Closures
import ImageTiers.Proofs.Finding
import ImageTiers.Proofs.Portraits
import ImageTiers.Proofs.CommandLines
import ImageTiers.Proofs.HalPaths
import ImageTiers.Proofs.ExtraPatterns
import ImageTiers.Proofs.Counts
import ImageTiers.Proofs.Refusals
import ImageTiers.Proofs.ConfigTexts
import ImageTiers.Proofs.ManifestTexts
import ImageTiers.Proofs.EntryViews
import ImageTiers.Proofs.NdkPaths
