import TemplateIR.Emit.OptionsFile
import TemplateIR.Log.Format
import TemplateIR.Proofs.Diagnostic.Filling
import TemplateIR.Proofs.Diagnostic.WholeFilling
import TemplateIR.Proofs.Emit.EmittedName
import TemplateIR.Proofs.Emit.EscapedMeaning
import TemplateIR.Proofs.Emit.EscapedText
import TemplateIR.Proofs.Emit.FlagSpelling
import TemplateIR.Proofs.Emit.LiteralCode
import TemplateIR.Proofs.Emit.LiteralValue
import TemplateIR.Proofs.Emit.OptionsClosing
import TemplateIR.Proofs.Emit.OptionsReading
import TemplateIR.Proofs.Json.Grammar
import TemplateIR.Proofs.Json.NumberReading
import TemplateIR.Proofs.Json.StringReading
import TemplateIR.Proofs.Json.ValueReading
import TemplateIR.Proofs.Search
import TemplateIR.Proofs.Session.Identities
import TemplateIR.Proofs.Source.LineBreaks
import TemplateIR.Proofs.Source.LineCharacters
import TemplateIR.Proofs.Source.LineLookup
import TemplateIR.Proofs.Source.PositionOrder
import TemplateIR.Proofs.Source.SpanExtent
import TemplateIR.Proofs.Source.SpanMerge
import TemplateIR.Proofs.Text.CaseMapping
import TemplateIR.Proofs.Text.RangeSearch
import TemplateIR.Proofs.Text.Trimming
import TemplateIR.Proofs.Tree.CopyIdentities
import TemplateIR.Proofs.Tree.CopyLog
import TemplateIR.Proofs.Tree.DanglingCopy
import TemplateIR.Proofs.Tree.Generations
import TemplateIR.Proofs.Tree.Relabel
import TemplateIR.Proofs.Tree.SecondCopy
import TemplateIR.Proofs.Tree.SourceContent
import TemplateIR.Proofs.Tree.SourceLines
import TemplateIR.Proofs.Tree.SourceText
import TemplateIR.Proofs.Tree.StatementwiseCopy
import TemplateIR.Proofs.Tree.WiderScope
import TemplateIR.Source.LineIndex
import TemplateIR.Tree.CopyRun
import TemplateIR.Tree.Preorder
