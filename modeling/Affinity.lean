import Affinity.Facts.Structured
import Affinity.Main
import Affinity.Proofs.Blocks.Methods
import Affinity.Proofs.Blocks.Nesting
import Affinity.Proofs.Blocks.Opening
import Affinity.Proofs.Cache.Requests
import Affinity.Proofs.Cache.Transparency
import Affinity.Proofs.Comment.Boundaries
import Affinity.Proofs.Comment.Markers
import Affinity.Proofs.Comment.Rounds
import Affinity.Proofs.Comment.Stripped
import Affinity.Proofs.Comparison.Agreement
import Affinity.Proofs.Comparison.Bounds
import Affinity.Proofs.Comparison.Contributions
import Affinity.Proofs.Comparison.Dilution
import Affinity.Proofs.Comparison.Shares
import Affinity.Proofs.Comparison.Symmetry
import Affinity.Proofs.Comparison.TopGaps
import Affinity.Proofs.Facts.Annotations
import Affinity.Proofs.Facts.LineBreaks
import Affinity.Proofs.Facts.WellFormed
import Affinity.Proofs.FileSet.DeliveryOrder
import Affinity.Proofs.FileSet.Keys
import Affinity.Proofs.Finding.Copies
import Affinity.Proofs.Finding.Hotspots
import Affinity.Proofs.Finding.ImportCounts
import Affinity.Proofs.Profile.Accounting
import Affinity.Proofs.Profile.Averages
import Affinity.Proofs.Profile.Deadline
import Affinity.Proofs.Profile.Isolation
import Affinity.Proofs.Profile.PrimaryLanguage
import Affinity.Proofs.Python.Attribution
import Affinity.Proofs.Score.Direction
import Affinity.Proofs.Score.Proportion
import Affinity.Proofs.Settings.Importance
import Affinity.Proofs.Text.ParameterLists
import Affinity.Source.Delivery
import Affinity.World
