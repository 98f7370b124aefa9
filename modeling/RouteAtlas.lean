import RouteAtlas.Cms.Config
import RouteAtlas.Cms.Survey
import RouteAtlas.CommandLine
import RouteAtlas.Controller.Survey
import RouteAtlas.Disk.Path
import RouteAtlas.Disk.Tree
import RouteAtlas.FileRouter.Path
import RouteAtlas.FileRouter.Survey
import RouteAtlas.FileRouter.Verb
import RouteAtlas.Framework
import RouteAtlas.Json.Reader
import RouteAtlas.Json.Relaxed
import RouteAtlas.Json.Value
import RouteAtlas.Json.Writer
import RouteAtlas.Log
import RouteAtlas.Main
import RouteAtlas.Manifest
import RouteAtlas.Options.Basic
import RouteAtlas.Options.Document
import RouteAtlas.Pattern.Basic
import RouteAtlas.Pattern.Reader
import RouteAtlas.Project.Basic
import RouteAtlas.Project.CompilerConfig
import RouteAtlas.Project.Declaration
import RouteAtlas.Project.Specifier
import RouteAtlas.Reference.Basic
import RouteAtlas.Reference.Query
import RouteAtlas.Reference.Walk
import RouteAtlas.Route.Basic
import RouteAtlas.Route.Document
import RouteAtlas.Route.Method
import RouteAtlas.Route.Segment
import RouteAtlas.Rpc.Chain
import RouteAtlas.Rpc.Graph
import RouteAtlas.Rpc.Matcher
import RouteAtlas.Rpc.Name
import RouteAtlas.Rpc.Procedure
import RouteAtlas.Rpc.Site
import RouteAtlas.Rpc.Survey
import RouteAtlas.Scan
import RouteAtlas.Script.Cursor
import RouteAtlas.Script.Grammar.Binding
import RouteAtlas.Script.Grammar.Callable
import RouteAtlas.Script.Grammar.ClassBody
import RouteAtlas.Script.Grammar.Expression
import RouteAtlas.Script.Grammar.Markup
import RouteAtlas.Script.Grammar.ModuleItem
import RouteAtlas.Script.Grammar.Phrase
import RouteAtlas.Script.Grammar.Statement
import RouteAtlas.Script.Grammar.Types
import RouteAtlas.Script.Item
import RouteAtlas.Script.Name
import RouteAtlas.Script.Node
import RouteAtlas.Script.Parse
import RouteAtlas.Script.Token
import RouteAtlas.Text.Blank
import RouteAtlas.Text.Case
import RouteAtlas.Text.Decimal
import RouteAtlas.Text.Letter
import RouteAtlas.Text.Read
import RouteAtlas.Text.Split
import RouteAtlas.Text.Symbol
import RouteAtlas.Toml.Basic
import RouteAtlas.Toml.Reader
import RouteAtlas.Proofs.Nesting
import RouteAtlas.Proofs.RouterReach
import RouteAtlas.Proofs.LoadedProject
import RouteAtlas.Proofs.QueryRegion
import RouteAtlas.Proofs.HandlerPlaces
import RouteAtlas.Proofs.ConfigPlaces
import RouteAtlas.Proofs.RoutePlaces
import RouteAtlas.Proofs.ConfigHandlers
import RouteAtlas.Proofs.RoutePaths
import RouteAtlas.Proofs.ProjectRuns
import RouteAtlas.Proofs.ConfigLiterals
import RouteAtlas.Proofs.QuietWalks
import RouteAtlas.Proofs.ContainerContents
import RouteAtlas.Proofs.BareSyntax
import RouteAtlas.Proofs.BareWalks
import RouteAtlas.Proofs.ScanAssembly
import RouteAtlas.Proofs.StarExports
import RouteAtlas.Proofs.ReferenceChains
import RouteAtlas.Proofs.NamedProcedures
import RouteAtlas.Proofs.CallChains
import RouteAtlas.Proofs.RouterSites
import RouteAtlas.Proofs.DiskContents
import RouteAtlas.Proofs.ImportCandidates
import RouteAtlas.Proofs.ConfigChains
import RouteAtlas.Proofs.ParentNames
import RouteAtlas.Proofs.RelaxedPieces
import RouteAtlas.Proofs.RouteFiles
import RouteAtlas.Proofs.DefaultExports
import RouteAtlas.Proofs.ExportedVerbs
import RouteAtlas.Proofs.TreePositions
import RouteAtlas.Proofs.PlacedLists
import RouteAtlas.Proofs.ControllerSites
import RouteAtlas.Proofs.FileMethods
import RouteAtlas.Proofs.ExportLists
import RouteAtlas.Proofs.RouteParameters
import RouteAtlas.Proofs.RouterNames
import RouteAtlas.Proofs.ListingOrder
import RouteAtlas.Proofs.TreeWalks
import RouteAtlas.Proofs.LoadedSources
import RouteAtlas.Proofs.PathForms
import RouteAtlas.Proofs.NameWords
import RouteAtlas.Proofs.RouteDocuments
