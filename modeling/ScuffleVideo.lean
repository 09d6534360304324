import ScuffleVideo.Wire.Reader
import ScuffleVideo.Wire.Incremental
import ScuffleVideo.Rtmp.Define
import ScuffleVideo.Rtmp.Encoder
import ScuffleVideo.Rtmp.Decoder
import ScuffleVideo.Rtmp.DecoderSteps
import ScuffleVideo.Rtmp.MemoryLimits
import ScuffleVideo.Rtmp.PayloadAccounting
import ScuffleVideo.Rtmp.WireFormat
import ScuffleVideo.Rtmp.Assembler
import ScuffleVideo.Rtmp.MessageChunks
import ScuffleVideo.Rtmp.Interleaving
import ScuffleVideo.Rtmp.RoundTrip
import ScuffleVideo.Rtmp.Timestamps
import ScuffleVideo.Rtmp.Session
import ScuffleVideo.Rtmp.Fragmentation
import ScuffleVideo.Wire.Cursor
import ScuffleVideo.Mp4.BoxType
import ScuffleVideo.Mp4.TrackRun
import ScuffleVideo.Mp4.FragmentBoxes
import ScuffleVideo.Mp4.MovieFragment
import ScuffleVideo.Mp4.Containers
import ScuffleVideo.Mp4.DynBox
import ScuffleVideo.Mp4.Optimization
import ScuffleVideo.Mp4.CompositionOffsets
import ScuffleVideo.Mp4.SizeLaw
import ScuffleVideo.Flv.Tag
import ScuffleVideo.Flv.File
import ScuffleVideo.Transmuxer.Define
import ScuffleVideo.Transmuxer.Mux
import ScuffleVideo.Mp4.FragmentRoundTrip
import ScuffleVideo.Transmuxer.Segment
import ScuffleVideo.Transmuxer.MediaSegments
import ScuffleVideo.Transmuxer.Runs
import ScuffleVideo.Transmuxer.Timeline
import ScuffleVideo.Transmuxer.Delivery
import ScuffleVideo.Amf0.Encoder
import ScuffleVideo.Amf0.Decoder
import ScuffleVideo.Amf0.Grammar
import ScuffleVideo.Amf0.Recognition
import ScuffleVideo.Amf0.RoundTrip
import ScuffleVideo.Amf0.Safety
import ScuffleVideo.Rtmp.Messages
import ScuffleVideo.Rtmp.Responses
import ScuffleVideo.Rtmp.ServerSession
import ScuffleVideo.Rtmp.Publishing
import ScuffleVideo.Rtmp.HandshakePhase
import ScuffleVideo.Rtmp.HandshakeBoundary
import ScuffleVideo.Rtmp.HandshakeCalls
import ScuffleVideo.Mp4.SampleTable
import ScuffleVideo.Mp4.MovieBoxes
import ScuffleVideo.Wire.Bits
import ScuffleVideo.Wire.BitWriter
import ScuffleVideo.Wire.BitReader
import ScuffleVideo.Wire.BitRoundTrip
import ScuffleVideo.Wire.BitCursor
import ScuffleVideo.H264.Config
import ScuffleVideo.H265.Config
import ScuffleVideo.Av1.Config
import ScuffleVideo.Mp4.Descriptors
import ScuffleVideo.Mp4.DescriptorTree
import ScuffleVideo.Mp4.DescriptorRoundTrip
import ScuffleVideo.Mp4.SampleEntries
import ScuffleVideo.Wire.Crashing
import ScuffleVideo.Wire.Extent
import ScuffleVideo.Wire.BitDecoding
import ScuffleVideo.H264.ConfigRoundTrip
import ScuffleVideo.H265.ConfigRoundTrip
import ScuffleVideo.H265.Sps
import ScuffleVideo.H265.SpsLayout
import ScuffleVideo.H265.SpsSafety
import ScuffleVideo.Av1.ConfigRoundTrip
import ScuffleVideo.Wire.EmulationPrevention
import ScuffleVideo.Wire.ExpGolomb
import ScuffleVideo.Wire.Walk
import ScuffleVideo.H264.Sps
import ScuffleVideo.H264.SpsLayout
import ScuffleVideo.H264.SpsParsing
import ScuffleVideo.H264.SpsSafety
import ScuffleVideo.Mp4.EditList
import ScuffleVideo.Mp4.TableRoundTrip
import ScuffleVideo.Mp4.TextFields
import ScuffleVideo.Mp4.UnknownBoxes
import ScuffleVideo.Mp4.ParsingSafety
import ScuffleVideo.Mp4.LimitedMemory
import ScuffleVideo.Concurrent.Run
import ScuffleVideo.Context.Tracker
import ScuffleVideo.Context.Shutdown
import ScuffleVideo.Context.Waiting
import ScuffleVideo.Concurrent.BatchQueue
import ScuffleVideo.Batching.Batcher
import ScuffleVideo.Batching.Delivery
import ScuffleVideo.Batching.DataLoader
import ScuffleVideo.Batching.Loading
import ScuffleVideo.Batching.LoadValues
import ScuffleVideo.Wire.ExpGolombWriting
import ScuffleVideo.Av1.Uvlc
import ScuffleVideo.Av1.SequenceHeader
import ScuffleVideo.Av1.SequenceHeaderLayout
import ScuffleVideo.H265.ReferencePictures
import ScuffleVideo.Wire.Numerals
import ScuffleVideo.Mp4.Codec
import ScuffleVideo.Mp4.CodecSafety
import ScuffleVideo.Metrics.Labels
import ScuffleVideo.Http.QuicBody
import ScuffleVideo.Ffmpeg.Channel
import ScuffleVideo.Wire.BitFailures
import ScuffleVideo.Transmuxer.ExactOffsets
import ScuffleVideo.Mp4.CompactSizes
import ScuffleVideo.Mp4.TimeFields
import ScuffleVideo.Search.DepthFirst
import ScuffleVideo.Features.Permutations
import ScuffleVideo.Search.ClosedSets
import ScuffleVideo.Features.PowerSet
import ScuffleVideo.Features.CompleteSets
import ScuffleVideo.Features.ViableFeatures
import ScuffleVideo.Mp4.Rewriting
import ScuffleVideo.Transmuxer.Output
import ScuffleVideo.Rtmp.Replies
import ScuffleVideo.Transmuxer.InitExactness
