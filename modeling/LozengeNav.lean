import LozengeNav.Main
import LozengeNav.Proofs.Ancestry.Agreement
import LozengeNav.Proofs.Definition.Stages
import LozengeNav.Proofs.SourceIndex.Locate
import LozengeNav.Proofs.NameTable
import LozengeNav.Proofs.SourceIndex.Jump
import LozengeNav.Proofs.Files.LinkFree
import LozengeNav.Proofs.SourceIndex.RelativeImport
import LozengeNav.Proofs.Outline.Lexeme
import LozengeNav.Proofs.Outline.Node
import LozengeNav.Proofs.Outline.Row
import LozengeNav.Proofs.Outline.Syntax
import LozengeNav.Proofs.ClassHeader
import LozengeNav.Proofs.Outline.ClassStatement
import LozengeNav.Proofs.Text.Utf8
import LozengeNav.Proofs.Uri
import LozengeNav.Proofs.SourceIndex.ClassName
import LozengeNav.Proofs.Ancestry.OwnClass
import LozengeNav.Proofs.SourceIndex.Timeline
import LozengeNav.Proofs.Server.Failure
import LozengeNav.Proofs.Server.Agreement
import LozengeNav.Proofs.Protocol.Discipline
import LozengeNav.Proofs.Server.Startup
import LozengeNav.Proofs.CommandLine.ExitCode
import LozengeNav.Proofs.Files.Found
import LozengeNav.Proofs.Files.Distinct
import LozengeNav.Proofs.Files.RealPath
import LozengeNav.Proofs.Reference.Cursor
import LozengeNav.Proofs.Config.Data
import LozengeNav.Proofs.Protocol.Shared
import LozengeNav.Proofs.Server.Contention
import LozengeNav.Proofs.Server.OneSetup
import LozengeNav.Proofs.Expression.Chain
import LozengeNav.Proofs.ClassHeader.Opening
import LozengeNav.Proofs.ClassHeader.BaseList
import LozengeNav.Proofs.ClassHeader.Flat
import LozengeNav.Proofs.ClassHeader.Arguments
import LozengeNav.Proofs.Ancestry.Calls
import LozengeNav.Proofs.Search.Nearest
import LozengeNav.Proofs.Search.Tour
import LozengeNav.Proofs.Enclosing.Forest
import LozengeNav.Proofs.Enclosing.Lookup
import LozengeNav.Proofs.Imports
import LozengeNav.Proofs.SourceIndex.Member
import LozengeNav.Proofs.Uri.Marker
import LozengeNav.Proofs.Uri.Return
import LozengeNav.Proofs.Protocol.Codec
import LozengeNav.Proofs.Files.Nesting
import LozengeNav.Proofs.Files.Wildcard
import LozengeNav.Proofs.LocalFile
import LozengeNav.Proofs.Definition.Views
import LozengeNav.Proofs.Reference.Colon
import LozengeNav.Proofs.Expression.Cursor
import LozengeNav.Proofs.Ancestry.Successor
