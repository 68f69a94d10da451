import ApiShell.Main
import ApiShell.Proofs.Acceptance
import ApiShell.Proofs.Visibility
import ApiShell.Proofs.Forest
import ApiShell.Proofs.DeclarationTrail
import ApiShell.Proofs.Category
import ApiShell.Proofs.MetadataName
import ApiShell.Proofs.Identity
import ApiShell.Proofs.Blocks
import ApiShell.Proofs.IgnoredTypes
import ApiShell.Proofs.DeclaredPath
import ApiShell.Proofs.ReferenceClosure
import ApiShell.Proofs.Assignability
import ApiShell.Proofs.Indentation
import ApiShell.Proofs.Grammar
import ApiShell.Proofs.Accessors
import ApiShell.Proofs.StubBodies
import ApiShell.Proofs.ExcludedAttributes
import ApiShell.Proofs.StrandedTypes
import ApiShell.Proofs.SavedShell
import ApiShell.Proofs.LoadedLibrary
import ApiShell.Proofs.LeafClasses
import ApiShell.Proofs.Overrides
import ApiShell.Proofs.QuotedText
import ApiShell.Proofs.NamespaceBlocks
import ApiShell.Proofs.Supertypes
import ApiShell.Proofs.Substitution
import ApiShell.Proofs.SearchEnds
import ApiShell.Proofs.NestingEnds
import ApiShell.Proofs.DeclaredNames
import ApiShell.Proofs.EnumConstants
import ApiShell.Proofs.WriterHistory
import ApiShell.Proofs.Disclaimer
import ApiShell.Proofs.DocumentRoots
import ApiShell.Proofs.ClosedComment
import ApiShell.Proofs.ArityMarkers
import ApiShell.Proofs.ClaimedArguments
import ApiShell.Proofs.Composition
