import Blitter.Main
import Blitter.Proofs.Channel.Split
import Blitter.Proofs.Compiler.CommandChannel
import Blitter.Proofs.Compiler.FilledSamples
import Blitter.Proofs.Compiler.LayerOrder
import Blitter.Proofs.Compiler.ReadChannels
import Blitter.Proofs.Compiler.Slices
import Blitter.Proofs.Completion.Await
import Blitter.Proofs.Config.File
import Blitter.Proofs.Device.Failure
import Blitter.Proofs.Device.Room
import Blitter.Proofs.Engine.Version
import Blitter.Proofs.Format.Name
import Blitter.Proofs.Format.Period
import Blitter.Proofs.InWords.Compiler
import Blitter.Proofs.Register.FieldByField
import Blitter.Proofs.Replay
import Blitter.Proofs.Strip.Combined
import Blitter.Proofs.Strip.Contiguous
import Blitter.Proofs.Surface
import Blitter.Proofs.Tile.Least
import Blitter.Proofs.Wiring.LayerSet
import Blitter.Window
