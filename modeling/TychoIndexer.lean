import TychoIndexer.Basic
import TychoIndexer.Codec
import TychoIndexer.Models
import TychoIndexer.Substreams
import TychoIndexer.Decoder.Parts
import TychoIndexer.Decoder.Tx
import TychoIndexer.Decoder.Block
import TychoIndexer.Extractor.Rpc
import TychoIndexer.Extractor.Batch
import TychoIndexer.Extractor.BatchResults
import TychoIndexer.Extractor.Single
import TychoIndexer.Client.Realtime
import TychoIndexer.Services.Rpc
