import MediaCatalog.Main
import MediaCatalog.Session
import MediaCatalog.Proofs.Scheme
import MediaCatalog.Proofs.Scheme.Grammar
import MediaCatalog.Proofs.Text.FinalSigma
import MediaCatalog.Proofs.Recognition
import MediaCatalog.Proofs.Recognition.LetterCase
import MediaCatalog.Proofs.Extension
import MediaCatalog.Proofs.Extension.Spelling
import MediaCatalog.Proofs.Text.Cut
import MediaCatalog.Proofs.Text.Trim
import MediaCatalog.Proofs.Text.Seam
import MediaCatalog.Proofs.Text.UpperCase
import MediaCatalog.Proofs.SkipList
import MediaCatalog.Proofs.SkipList.Joining
import MediaCatalog.Proofs.SkipList.LetterCase
import MediaCatalog.Proofs.Assignment
import MediaCatalog.Proofs.Session
import MediaCatalog.Proofs.Isolation
import MediaCatalog.Proofs.Copy
import MediaCatalog.Proofs.LastMatch
import MediaCatalog.Proofs.PastMatches
import MediaCatalog.Proofs.Routing
import MediaCatalog.Proofs.FormatSet
import MediaCatalog.Proofs.Settings
import MediaCatalog.Proofs.Identifier
import MediaCatalog.Proofs.Table
import MediaCatalog.Proofs.Display
import MediaCatalog.Proofs.CommandLine.Start
import MediaCatalog.Proofs.CommandLine.Block
import MediaCatalog.Proofs.CommandLine.Match
import MediaCatalog.Proofs.CommandLine.SkipLists
import MediaCatalog.Proofs.CommandLine.Run
import MediaCatalog.Proofs.CommandLine.MissingText
import MediaCatalog.Proofs.CommandLine.Drawing
import MediaCatalog.Proofs.CommandLine.ExitCode
import MediaCatalog.Proofs.CommandLine.Installation
import MediaCatalog.Proofs.CommandLine.Plain
import MediaCatalog.Proofs.CommandLine.Verbosity
import MediaCatalog.Proofs.CommandLine.Log
import MediaCatalog.Proofs.CommandLine.Formats
import MediaCatalog.Proofs.Settings.Faults
import MediaCatalog.Proofs.Settings.FormatList
import MediaCatalog.Proofs.Table.Layout
import MediaCatalog.Proofs.Table.Printing
import MediaCatalog.Proofs.Category
import MediaCatalog.Proofs.Supplier
import MediaCatalog.Proofs.CommandLine.StyleTags
