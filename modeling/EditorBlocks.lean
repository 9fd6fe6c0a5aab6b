import EditorBlocks.Hook.Rule
import EditorBlocks.Log.Template
import EditorBlocks.Main
import EditorBlocks.Proofs.Session.Admission
import EditorBlocks.Proofs.Session.Classification
import EditorBlocks.Proofs.Session.Debug
import EditorBlocks.Proofs.Session.Independence
import EditorBlocks.Proofs.Session.Noninterference
import EditorBlocks.Proofs.Sourcing.Visits
import EditorBlocks.Proofs.Session.Warnings
import EditorBlocks.Proofs.Session.Selectors
import EditorBlocks.Proofs.Session.Stable
import EditorBlocks.Proofs.CommandLine.Runs
import EditorBlocks.Proofs.Input.Escaping
import EditorBlocks.Proofs.Json.Numbers
import EditorBlocks.Proofs.Json.Strings
import EditorBlocks.Proofs.Json.Writable
import EditorBlocks.Proofs.Markup.Narrowing
import EditorBlocks.Proofs.Markup.Standard
import EditorBlocks.Proofs.Attribute.Lines
import EditorBlocks.Proofs.Markup.Recovery
import EditorBlocks.Proofs.Text.Spacing
import EditorBlocks.Proofs.CommandLine.Printed
import EditorBlocks.Proofs.Markup.Outline
import EditorBlocks.Proofs.Attribute.Records
import EditorBlocks.Proofs.Attribute.Fallback
import EditorBlocks.Proofs.Session.BasicSources
import EditorBlocks.Proofs.Attribute.Contents
import EditorBlocks.Proofs.Session.Echo
import EditorBlocks.Proofs.Session.Dumped
import EditorBlocks.Proofs.Session.LogLines
import EditorBlocks.Proofs.Log.Lines
import EditorBlocks.Proofs.Input.Documents
import EditorBlocks.Proofs.Input.Posts
import EditorBlocks.Proofs.Text.Normal
