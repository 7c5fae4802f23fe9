import MarkupLayout.Convert.Conversion
import MarkupLayout.Json.Printer
import MarkupLayout.Layout.Json
import MarkupLayout.Picture.Base64
import MarkupLayout.Picture.Snapshot
import MarkupLayout.Picture.Thumbnail
import MarkupLayout.Proofs.Convert.Annotated
import MarkupLayout.Proofs.Convert.Collapse
import MarkupLayout.Proofs.Convert.Depth
import MarkupLayout.Proofs.Convert.FontAttributes
import MarkupLayout.Proofs.Convert.Ignorable
import MarkupLayout.Proofs.Convert.Journaling
import MarkupLayout.Proofs.Convert.RemotePictures
import MarkupLayout.Proofs.Convert.Repeat
import MarkupLayout.Proofs.Convert.RunningText
import MarkupLayout.Proofs.Convert.SecondField
import MarkupLayout.Proofs.Convert.ThemeClasses
import MarkupLayout.Proofs.Layout.Burial
import MarkupLayout.Proofs.Layout.Tracks
import MarkupLayout.Proofs.Markup.Drawing
import MarkupLayout.Proofs.Markup.Readable
import MarkupLayout.Proofs.Picture.Address
import MarkupLayout.Proofs.Picture.Eviction
import MarkupLayout.Proofs.Picture.Fetches
import MarkupLayout.Proofs.Picture.Remembered
import MarkupLayout.Proofs.Picture.Traffic
import MarkupLayout.Proofs.Picture.Upkeep
import MarkupLayout.Proofs.Style.Accumulated
import MarkupLayout.Proofs.Style.BorderMerge
import MarkupLayout.Proofs.Style.Lengths
import MarkupLayout.Proofs.Style.Levels
import MarkupLayout.Proofs.Style.Overrides
import MarkupLayout.Proofs.Style.Readback
import MarkupLayout.Proofs.Style.StrayBorders
import MarkupLayout.Proofs.Style.WhiteSpace
import MarkupLayout.Proofs.Style.Withheld
