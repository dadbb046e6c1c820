import PropertySheet.App.Basic
import PropertySheet.App.Draw
import PropertySheet.App.Run
import PropertySheet.Backend
import PropertySheet.Changes
import PropertySheet.Client.Basic
import PropertySheet.Client.Host
import PropertySheet.Client.Identity
import PropertySheet.Client.Line
import PropertySheet.Client.Transport
import PropertySheet.Columns
import PropertySheet.Component
import PropertySheet.Component.Snapshot
import PropertySheet.Descriptor
import PropertySheet.Descriptor.Wire
import PropertySheet.Dialog.NamePrompt
import PropertySheet.Dialog.Notice
import PropertySheet.Dialog.ServiceDialog
import PropertySheet.Dialog.Tooltip
import PropertySheet.Dialog.ValueDetail
import PropertySheet.Editor.CellEditor
import PropertySheet.Editor.ChoiceList
import PropertySheet.Editor.Draw
import PropertySheet.Editor.Surface
import PropertySheet.Editor.TextField
import PropertySheet.Expression
import PropertySheet.Failure
import PropertySheet.GridView
import PropertySheet.Json.Binary64
import PropertySheet.Json.Decode
import PropertySheet.Json.Read
import PropertySheet.Json.Value
import PropertySheet.Json.Write
import PropertySheet.Key
import PropertySheet.LogFile
import PropertySheet.Main
import PropertySheet.Markup
import PropertySheet.Proofs.RowStore.Indexed
import PropertySheet.Proofs.Sheet.Operation
import PropertySheet.Proofs.Sheet.Traffic
import PropertySheet.Proofs.Sheet.Transactions
import PropertySheet.Rect
import PropertySheet.Request
import PropertySheet.Row
import PropertySheet.RowStore
import PropertySheet.Screen.Grid
import PropertySheet.Screen.Line
import PropertySheet.Screen.Paragraph
import PropertySheet.Screen.Style
import PropertySheet.Service
import PropertySheet.Service.Wire
import PropertySheet.Settings
import PropertySheet.Sheet.Asking
import PropertySheet.Sheet.Basic
import PropertySheet.Sheet.Draw
import PropertySheet.Sheet.Editing
import PropertySheet.Sheet.Keys
import PropertySheet.Sheet.Responses
import PropertySheet.SheetConfig
import PropertySheet.SortedMap
import PropertySheet.Text.Blank
import PropertySheet.Text.Cluster
import PropertySheet.Text.ClusterTable
import PropertySheet.Text.Digit
import PropertySheet.Text.Ellipsis
import PropertySheet.Text.Quoted
import PropertySheet.Text.Width
import PropertySheet.Text.WidthTable
import PropertySheet.Url.Basic
import PropertySheet.Url.Host
import PropertySheet.Url.Percent
import PropertySheet.Yaml.Cursor
import PropertySheet.Yaml.Decode
import PropertySheet.Yaml.Document
import PropertySheet.Yaml.Scalar
import PropertySheet.Yaml.Scan
import PropertySheet.Yaml.Tag
import PropertySheet.Yaml.Token
import PropertySheet.Proofs.Sheet.Creation
import PropertySheet.Proofs.Changes
import PropertySheet.Proofs.Sheet.Rows
import PropertySheet.Proofs.Sheet.Saving
import PropertySheet.Proofs.Sheet.EditLock
import PropertySheet.Proofs.RowStore.Calls
import PropertySheet.Proofs.GridView.Following
import PropertySheet.Proofs.Sheet.Formatted
import PropertySheet.Proofs.Sheet.Concealed
import PropertySheet.Proofs.Sheet.Secrecy
import PropertySheet.Proofs.Sheet.Noninterference
import PropertySheet.Proofs.Sheet.Provenance
import PropertySheet.Proofs.Sheet.Pairing
import PropertySheet.Proofs.Sheet.Queue
import PropertySheet.Proofs.Sheet.Adding
import PropertySheet.Proofs.Sheet.ReadOnly
import PropertySheet.Proofs.App.Talk
import PropertySheet.Proofs.App.Tasks
import PropertySheet.Proofs.App.World
import PropertySheet.Proofs.App.Loading
import PropertySheet.Proofs.App.Revision
import PropertySheet.Proofs.App.Keeping
import PropertySheet.Proofs.App.Binding
import PropertySheet.Proofs.Sheet.Places
import PropertySheet.Proofs.Sheet.Failures
import PropertySheet.Proofs.Sheet.Destroyed
import PropertySheet.Proofs.Sheet.Navigation
import PropertySheet.Proofs.Sheet.Settling
import PropertySheet.Proofs.Editor.Typing
import PropertySheet.Proofs.Editor.Committing
import PropertySheet.Proofs.Sheet.Successes
import PropertySheet.Proofs.App.Leaving
import PropertySheet.Proofs.Sheet.Choosing
import PropertySheet.Proofs.Editor.Field
import PropertySheet.Proofs.Editor.Untouched
import PropertySheet.Proofs.Sheet.Reopening
import PropertySheet.Proofs.Editor.Bytes
import PropertySheet.Proofs.Editor.Placeholder
import PropertySheet.Proofs.Editor.Cycling
import PropertySheet.Proofs.Sheet.Refusing
import PropertySheet.Proofs.App.Routing
import PropertySheet.Proofs.Expression.Grammar
import PropertySheet.Proofs.Expression.Segmentation
import PropertySheet.Proofs.Expression.Scan
import PropertySheet.Proofs.Expression.Lines
import PropertySheet.Proofs.Component.UpdateBody
import PropertySheet.Proofs.GridView.Scrolling
import PropertySheet.Proofs.RowStore.Unsaved
import PropertySheet.Proofs.Sheet.Loading
import PropertySheet.Proofs.Markup.ValueCell
import PropertySheet.Proofs.RowStore.Duplicates
import PropertySheet.Proofs.Screen.Regions
import PropertySheet.Proofs.Screen.Strokes
import PropertySheet.Proofs.Sheet.CellAreas
import PropertySheet.Proofs.Sheet.Popups
import PropertySheet.Proofs.Text.Elision
import PropertySheet.Proofs.Editor.Dragging
import PropertySheet.Proofs.Editor.CursorMark
import PropertySheet.Proofs.Url.Percent
import PropertySheet.Proofs.Url.Below
import PropertySheet.Proofs.App.Addresses
import PropertySheet.Proofs.Editor.Arithmetic
