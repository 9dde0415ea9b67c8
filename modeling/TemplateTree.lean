import TemplateTree.FileSystem.Snapshot
import TemplateTree.Main
import TemplateTree.Proofs.Compile.Caching
import TemplateTree.Proofs.CommandLine.Endings
import TemplateTree.Proofs.Output.Straight
import TemplateTree.Proofs.FileSystem.Anywhere
import TemplateTree.Proofs.Output.Atomicity
import TemplateTree.Proofs.Compile.Calls
import TemplateTree.Proofs.CommandLine.Asking
import TemplateTree.Proofs.SearchPath.Enumerating
import TemplateTree.Proofs.Compile.Causes
import TemplateTree.Proofs.Lines.Reporting
import TemplateTree.Proofs.Values.Writing
import TemplateTree.Proofs.Values.Overlaying
import TemplateTree.Proofs.SearchPath.OwnEntries
import TemplateTree.Proofs.SearchPath.Excluding
import TemplateTree.Proofs.CommandLine.Extension
