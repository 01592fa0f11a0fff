import Retarget.Generate
import Retarget.Profile.Summary
import Retarget.Tree.Build
import Retarget.Tree.Decode
import Retarget.Tree.Dump
import Retarget.Proofs.MarkedEvents
import Retarget.Proofs.FirstMention
import Retarget.Proofs.Attributes
import Retarget.Proofs.Building
import Retarget.Proofs.Fitting
import Retarget.Proofs.Writing
import Retarget.Proofs.WritingTrees
import Retarget.Proofs.OverrideRules
import Retarget.Proofs.ProfileFits
import Retarget.Proofs.Skeleton
import Retarget.Proofs.Totality
import Retarget.Proofs.Casing
import Retarget.Proofs.FixedMarks
import Retarget.Proofs.RenamedScopes
import Retarget.Proofs.SettledNames
import Retarget.Proofs.Stability
import Retarget.Proofs.OperatorGrammar
import Retarget.Proofs.OperatorTokens
import Retarget.Proofs.Grouping
import Retarget.Proofs.OperatorTrees
import Retarget.Proofs.Descriptors
import Retarget.Proofs.StoredTrees
import Retarget.Proofs.FiniteNumbers
import Retarget.Proofs.ReadTrees
import Retarget.Proofs.TemplateSpelling
import Retarget.Proofs.Pieces
import Retarget.Proofs.TemplateSources
import Retarget.Proofs.ShiftedTexts
import Retarget.Proofs.UnbrokenTemplates
import Retarget.Proofs.DepthShift
import Retarget.Proofs.OverrideShifts
import Retarget.Proofs.RealignedTexts
import Retarget.Proofs.IndentSettings
import Retarget.Proofs.Recurrence
import Retarget.Proofs.TextOutlines
import Retarget.Proofs.SpelledTypes
import Retarget.Proofs.TemplateOutlines
import Retarget.Proofs.OverrideOutlines
import Retarget.Proofs.BlanklessTrees
import Retarget.Proofs.VisibleLineEnds
import Retarget.Proofs.ContainedTexts
import Retarget.Proofs.KeptPrograms
import Retarget.Proofs.RegistryRuns
import Retarget.Proofs.LastRegistrations
import Retarget.Proofs.BalancedModules
import Retarget.Proofs.GroupedOperands
import Retarget.Proofs.CasedReferences
import Retarget.Proofs.MarkChanges
import Retarget.Proofs.DecidedMarks
import Retarget.Proofs.FirstUses
import Retarget.Proofs.ImportPlaces
import Retarget.Proofs.KeptLines
import Retarget.Proofs.ByteOffsets
import Retarget.Proofs.Margins
import Retarget.Proofs.PrefixSigns
import Retarget.Proofs.LiteralTexts
import Retarget.Proofs.LoopSequences
import Retarget.Proofs.PlacedDefinitions
import Retarget.Proofs.KnownNames
import Retarget.Proofs.CompleteTypes
import Retarget.Proofs.LoopVariables
import Retarget.Proofs.StoredAttributes
import Retarget.Proofs.ReachedChildren
import Retarget.Proofs.CasedNames
