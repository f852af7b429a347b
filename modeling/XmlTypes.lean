import XmlTypes.Build.Basic
import XmlTypes.Build.Classes
import XmlTypes.Build.Classification
import XmlTypes.Build.Context
import XmlTypes.Build.Members
import XmlTypes.Build.Reserved
import XmlTypes.Build.Roots
import XmlTypes.Build.Simple
import XmlTypes.Build.State
import XmlTypes.Build.Substitutions
import XmlTypes.Build.Types
import XmlTypes.Command
import XmlTypes.Configuration
import XmlTypes.Dump.Basic
import XmlTypes.Dump.Json
import XmlTypes.Dump.OfGraph
import XmlTypes.Failure
import XmlTypes.Files
import XmlTypes.Graph.Basic
import XmlTypes.Graph.Finish
import XmlTypes.Graph.Node
import XmlTypes.Graph.Walk
import XmlTypes.Json.Printer
import XmlTypes.Json.Reader
import XmlTypes.Json.Shape
import XmlTypes.Json.Value
import XmlTypes.Main
import XmlTypes.Namespace.Ambiguity
import XmlTypes.Namespace.Key
import XmlTypes.Namespace.Resolver
import XmlTypes.Naming
import XmlTypes.Number.Binary64
import XmlTypes.Number.Decimal
import XmlTypes.Number.Digits
import XmlTypes.Proofs.Annotations
import XmlTypes.Proofs.Asking
import XmlTypes.Proofs.Attaching
import XmlTypes.Proofs.Bounds
import XmlTypes.Proofs.BuiltClasses
import XmlTypes.Proofs.CircularTypes
import XmlTypes.Proofs.ClassBuilds
import XmlTypes.Proofs.ClassRuns
import XmlTypes.Proofs.Classifying
import XmlTypes.Proofs.Closure
import XmlTypes.Proofs.Contents
import XmlTypes.Proofs.DecimalReading
import XmlTypes.Proofs.DeclarationLookups
import XmlTypes.Proofs.Declarations
import XmlTypes.Proofs.Depths
import XmlTypes.Proofs.Derivations
import XmlTypes.Proofs.Disambiguation
import XmlTypes.Proofs.DocumentOrder
import XmlTypes.Proofs.Dumps
import XmlTypes.Proofs.ElementTypes
import XmlTypes.Proofs.EnumerationTypes
import XmlTypes.Proofs.EnumerationValues
import XmlTypes.Proofs.Erasure
import XmlTypes.Proofs.Evolution
import XmlTypes.Proofs.ExactWalks
import XmlTypes.Proofs.ExplicitNamespaces
import XmlTypes.Proofs.Filling
import XmlTypes.Proofs.Finishing
import XmlTypes.Proofs.FreshNames
import XmlTypes.Proofs.FullNames
import XmlTypes.Proofs.Gathering
import XmlTypes.Proofs.Globals
import XmlTypes.Proofs.Identifiers
import XmlTypes.Proofs.Identity
import XmlTypes.Proofs.InPlaceTypes
import XmlTypes.Proofs.InterfaceNames
import XmlTypes.Proofs.Interfaces
import XmlTypes.Proofs.Invariants
import XmlTypes.Proofs.Layering
import XmlTypes.Proofs.LengthRanges
import XmlTypes.Proofs.LinkHistories
import XmlTypes.Proofs.Links
import XmlTypes.Proofs.ListTypes
import XmlTypes.Proofs.Listings
import XmlTypes.Proofs.MemberBuilds
import XmlTypes.Proofs.MemberRuns
import XmlTypes.Proofs.Mirroring
import XmlTypes.Proofs.Names
import XmlTypes.Proofs.NamespaceTables
import XmlTypes.Proofs.NodeNames
import XmlTypes.Proofs.Nodes
import XmlTypes.Proofs.NumberedNames
import XmlTypes.Proofs.Numerals
import XmlTypes.Proofs.NumericBounds
import XmlTypes.Proofs.Occurrences
import XmlTypes.Proofs.OwnMembers
import XmlTypes.Proofs.Places
import XmlTypes.Proofs.PlainNames
import XmlTypes.Proofs.Proceeding
import XmlTypes.Proofs.Progress
import XmlTypes.Proofs.Provenance
import XmlTypes.Proofs.Pruning
import XmlTypes.Proofs.References
import XmlTypes.Proofs.Registering
import XmlTypes.Proofs.Registrations
import XmlTypes.Proofs.RenameClashes
import XmlTypes.Proofs.Representation
import XmlTypes.Proofs.Resolving
import XmlTypes.Proofs.Restrictions
import XmlTypes.Proofs.RootClaims
import XmlTypes.Proofs.RootClasses
import XmlTypes.Proofs.RootNames
import XmlTypes.Proofs.RootRuns
import XmlTypes.Proofs.Roots
import XmlTypes.Proofs.Runs
import XmlTypes.Proofs.SchemaTexts
import XmlTypes.Proofs.SeparateNames
import XmlTypes.Proofs.Shadowing
import XmlTypes.Proofs.Shapes
import XmlTypes.Proofs.Sharing
import XmlTypes.Proofs.Spelling
import XmlTypes.Proofs.StandIns
import XmlTypes.Proofs.Steps
import XmlTypes.Proofs.Stops
import XmlTypes.Proofs.Substituting
import XmlTypes.Proofs.SubstitutionGroups
import XmlTypes.Proofs.Tables
import XmlTypes.Proofs.Termination
import XmlTypes.Proofs.Traversal
import XmlTypes.Proofs.TypeBuilds
import XmlTypes.Proofs.TypeLookups
import XmlTypes.Proofs.TypeNames
import XmlTypes.Proofs.TypeRuns
import XmlTypes.Proofs.UnionWidening
import XmlTypes.Proofs.UniqueNames
import XmlTypes.Proofs.Unnamed
import XmlTypes.Proofs.UpperCase
import XmlTypes.Proofs.Values
import XmlTypes.Proofs.Walks
import XmlTypes.Proofs.Wildcards
import XmlTypes.Proofs.WordSizes
import XmlTypes.QName
import XmlTypes.Restriction.Basic
import XmlTypes.Restriction.Layer
import XmlTypes.Schema.Assembly
import XmlTypes.Schema.Decode
import XmlTypes.Schema.Definition
import XmlTypes.Schema.Depth
import XmlTypes.Schema.Document
import XmlTypes.Schema.Encode
import XmlTypes.Schema.Facet
import XmlTypes.Schema.Index
import XmlTypes.Schema.Occurs
import XmlTypes.Schema.Order
import XmlTypes.Schema.Primitive
import XmlTypes.Table
import XmlTypes.Text.Blank
import XmlTypes.Text.Case
import XmlTypes.Text.CaseTable
import XmlTypes.Text.Composition
import XmlTypes.Text.CompositionTable
import XmlTypes.Text.Direction
import XmlTypes.Text.Images
import XmlTypes.Text.Joining
import XmlTypes.Text.Letters
import XmlTypes.Text.Marks
import XmlTypes.Text.Quoted
import XmlTypes.Text.Ranges
import XmlTypes.Text.Segments
import XmlTypes.Text.Shown
import XmlTypes.Uri.Address
import XmlTypes.Uri.Domain
import XmlTypes.Uri.DomainTable
import XmlTypes.Uri.FilePath
import XmlTypes.Uri.Host
import XmlTypes.Uri.Path
import XmlTypes.Uri.Punycode
import XmlTypes.Uri.Segment
