import MediasoupWorker.PayloadChannel.PayloadChannelSocket
import MediasoupWorker.RTC.Codecs.H264Aggregation
import MediasoupWorker.RTC.Codecs.VP8BaseLayer
import MediasoupWorker.RTC.Codecs.VP8Rewriting
import MediasoupWorker.RTC.Codecs.VP9LayerSwitching
import MediasoupWorker.RTC.ConsumerSequenceNumbers
import MediasoupWorker.RTC.IceServerAuthentication
import MediasoupWorker.RTC.KeyFrameRequestManager
import MediasoupWorker.RTC.NackGeneratorOverflow
import MediasoupWorker.RTC.NackGeneratorPacing
import MediasoupWorker.RTC.NackGeneratorRecovered
import MediasoupWorker.RTC.NackRoundTrip
import MediasoupWorker.RTC.ProducerMangle
import MediasoupWorker.RTC.ProducerStreams
import MediasoupWorker.RTC.PortManager
import MediasoupWorker.RTC.RTCP.FeedbackBitrate
import MediasoupWorker.RTC.RTCP.LinkedPackets
import MediasoupWorker.RTC.RTCP.FeedbackRtpTransportReceived
import MediasoupWorker.RTC.RTCP.FeedbackRtpTransportSize
import MediasoupWorker.RTC.RateCalculator
import MediasoupWorker.RTC.Router
import MediasoupWorker.RTC.RouterGraph
import MediasoupWorker.RTC.RtpListener
import MediasoupWorker.RTC.RtpPacketSession
import MediasoupWorker.RTC.RtpStreamClocks
import MediasoupWorker.RTC.RtpStreamRecvRestart
import MediasoupWorker.RTC.RtpStreamSendEviction
import MediasoupWorker.RTC.RtpStreamSendRtx
import MediasoupWorker.RTC.RtpStreamSendScore
import MediasoupWorker.RTC.SctpAssociation
import MediasoupWorker.RTC.SeqManagerDropped
import MediasoupWorker.RTC.SeqManagerReordering
import MediasoupWorker.RTC.SimulcastConsumerTimestamps
import MediasoupWorker.RTC.TcpConnection
import MediasoupWorker.RTC.TransportBitrate
import MediasoupWorker.RTC.TransportCongestionControlServer
import MediasoupWorker.RTC.TransportRtcp
