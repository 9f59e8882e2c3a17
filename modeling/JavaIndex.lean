import JavaIndex.Cache
import JavaIndex.Cli.Arguments
import JavaIndex.Cli.Json
import JavaIndex.Cli.Report
import JavaIndex.Cli.Style
import JavaIndex.Config
import JavaIndex.Discovery
import JavaIndex.Error
import JavaIndex.FileTree
import JavaIndex.Imports
import JavaIndex.Index.Basic
import JavaIndex.Index.Queries
import JavaIndex.Index.Tables
import JavaIndex.Java.Grammar
import JavaIndex.Java.Language
import JavaIndex.Java.Node
import JavaIndex.Java.References
import JavaIndex.Java.Rules.Declarations
import JavaIndex.Java.Rules.Expressions
import JavaIndex.Java.Rules.Names
import JavaIndex.Java.Rules.Statements
import JavaIndex.Java.Rules.Types
import JavaIndex.Java.Token
import JavaIndex.Java.Unit
import JavaIndex.JavaLang
import JavaIndex.Main
import JavaIndex.Outline
import JavaIndex.Outline.Build
import JavaIndex.Path
import JavaIndex.Pattern.Basic
import JavaIndex.Pattern.Reader
import JavaIndex.Proofs.BinaryNames
import JavaIndex.Proofs.Build
import JavaIndex.Proofs.ByteOrder
import JavaIndex.Proofs.CacheHistories
import JavaIndex.Proofs.Caches
import JavaIndex.Proofs.Cuts
import JavaIndex.Proofs.Deletion
import JavaIndex.Proofs.Discovery
import JavaIndex.Proofs.Exclusions
import JavaIndex.Proofs.Failures
import JavaIndex.Proofs.FoundSources
import JavaIndex.Proofs.Histories
import JavaIndex.Proofs.ImportedNames
import JavaIndex.Proofs.Interleaving
import JavaIndex.Proofs.Isolation
import JavaIndex.Proofs.Lookups
import JavaIndex.Proofs.Orphans
import JavaIndex.Proofs.Outlines
import JavaIndex.Proofs.PackageCounts
import JavaIndex.Proofs.PathOrder
import JavaIndex.Proofs.Phases
import JavaIndex.Proofs.PostProcessing
import JavaIndex.Proofs.Registration
import JavaIndex.Proofs.Replacement
import JavaIndex.Proofs.Resolution
import JavaIndex.Proofs.Runs
import JavaIndex.Proofs.Spellings
import JavaIndex.Proofs.Statistics
import JavaIndex.Proofs.Tables
import JavaIndex.Proofs.UsedTypes
import JavaIndex.QualifiedType
import JavaIndex.Resolution
import JavaIndex.Settings
import JavaIndex.SourceFile
import JavaIndex.Spelling
import JavaIndex.Text.CaseFold
import JavaIndex.Text.Cut
import JavaIndex.Text.Identifier
import JavaIndex.Text.Quoted
import JavaIndex.Text.Word
import JavaIndex.TypeReference
import JavaIndex.Yaml.Document
import JavaIndex.Yaml.Scalar
import JavaIndex.Proofs.ImportTables
import JavaIndex.Proofs.TableSearch
import JavaIndex.Proofs.UsedNames
import JavaIndex.Proofs.ResolvedNames
import JavaIndex.Proofs.Matches
import JavaIndex.Proofs.TreeShapes
import JavaIndex.Proofs.Words
import JavaIndex.Proofs.TreeParts
import JavaIndex.Proofs.Mentions
import JavaIndex.Proofs.ClassTypes
import JavaIndex.Proofs.ReferenceWalk
import JavaIndex.Proofs.SourceOrder
import JavaIndex.Proofs.Arrangements
import JavaIndex.Proofs.MemberTypes
import JavaIndex.Proofs.SpelledNames
import JavaIndex.Proofs.Relayout
import JavaIndex.Proofs.GapFree
import JavaIndex.Proofs.HeadingNames
import JavaIndex.Proofs.NameParts
import JavaIndex.Proofs.PathHints
import JavaIndex.Proofs.BinaryForms
import JavaIndex.Proofs.Contests
