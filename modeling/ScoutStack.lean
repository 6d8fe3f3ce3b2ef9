import ScoutStack.Lib.Table
import ScoutStack.Lib.Machine
import ScoutStack.Lib.Cells
import ScoutStack.Lib.Double
import ScoutStack.Lib.Binary
import ScoutStack.Lib.Decimal
import ScoutStack.Lib.Guarded
import ScoutStack.Mapper.Types
import ScoutStack.Mapper.Parameters
import ScoutStack.Mapper.State
import ScoutStack.Mapper.Occupancy
import ScoutStack.Mapper.Node
import ScoutStack.Mapper.Scan
import ScoutStack.Mapper.Transition
import ScoutStack.Mapper.Rational
import ScoutStack.Mapper.Automaton
import ScoutStack.Mapper.Confirmed
import ScoutStack.Mapper.Capacity
import ScoutStack.Mapper.Dirty
import ScoutStack.Mapper.Reset
import ScoutStack.Mapper.FreeSpace
import ScoutStack.Mapper.Decisions
import ScoutStack.Mapper.Generations
import ScoutStack.Mapper.Samples
import ScoutStack.Mapper.Provenance
import ScoutStack.Mapper.Transparency
import ScoutStack.Mapper.Coverage
import ScoutStack.Mapper.Verdict
import ScoutStack.Mapper.Staleness
import ScoutStack.Mapper.Rays
import ScoutStack.Mapper.FineCells
import ScoutStack.MapTools.Raster
import ScoutStack.MapTools.Stages
import ScoutStack.MapTools.Picture
import ScoutStack.MapTools.Decode
import ScoutStack.MapTools.Obstacles
import ScoutStack.MapTools.Arithmetic
import ScoutStack.MapTools.Georeference
import ScoutStack.Lib.Rigid
import ScoutStack.MapTools.Transform
import ScoutStack.Tf.Agreement
import ScoutStack.MapTools.Finalize
import ScoutStack.MapTools.Metadata
import ScoutStack.Lib.Bisect
import ScoutStack.Lib.Interpolation
import ScoutStack.NavBag.Records
import ScoutStack.NavBag.Percentile
import ScoutStack.NavBag.Nearest
import ScoutStack.NavBag.Stalls
import ScoutStack.NavBag.Reading
import ScoutStack.NavBag.Analysis
import ScoutStack.Localizer.Node
import ScoutStack.Localizer.Correction
import ScoutStack.Lib.Heap
import ScoutStack.Lib.Smallest
import ScoutStack.Lib.Replay
import ScoutStack.IkdTree.Node
import ScoutStack.IkdTree.Tree
import ScoutStack.IkdTree.Slots
import ScoutStack.IkdTree.Headers
import ScoutStack.IkdTree.Contents
import ScoutStack.IkdTree.Nearest
import ScoutStack.IkdTree.Map
import ScoutStack.IkdTree.Voxels
import ScoutStack.IkdTree.Runs
import ScoutStack.IkdTree.Balance
import ScoutStack.IkdTree.Rebuilding
import ScoutStack.IkdTree.Waiting
import ScoutStack.FastLio.LocalMap
import ScoutStack.FastLio.Mapping
import ScoutStack.Lib.Buffer
import ScoutStack.FastLio.Sync
import ScoutStack.Lib.Ring
import ScoutStack.UgvSdk.RingBuffer
import ScoutStack.UgvSdk.AsyncSerial
import ScoutStack.LivoxDriver.Queue
import ScoutStack.LivoxDriver.Handoff
import ScoutStack.LivoxDriver.Wakeup
import ScoutStack.LivoxDriver.Frames
import ScoutStack.LivoxDriver.Index
import ScoutStack.LivoxDriver.Messages
